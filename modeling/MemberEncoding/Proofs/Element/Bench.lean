import MemberEncoding.Element.Bench
import MemberEncoding.Proofs.Body.LineBreaks
import MemberEncoding.Proofs.Reading

/-!
# MemberEncoding.Proofs.Element.Bench

**No one-liner is out of date** (`run_keeps_lines`). Whatever is done at the bench, the line kept
with an element is the one that its own code, tags and type parameters ask for, so that it does not
depend on how the element came about.

All ways to get an element end alike, with an element kept or a draft put on the bench
(`act_cases`). That is why a line is right when it is kept, and nothing touches it afterwards.
-/

namespace MemberEncoding

/-! ### One-liners -/

theorem TagSet.isInlinable_iff {s : TagSet} :
    s.isInlinable = true ↔ .equals ∈ s ∨ .asString ∈ s ∨ .hashCode ∈ s ∨ .fromValue ∈ s ∨
      .copy ∈ s ∧ .builder ∉ s := by
  have hcopy : Role.holds s .copy = true ↔ .copy ∈ s ∧ .builder ∉ s := by
    rw [Role.holds, Bool.and_eq_true, Bool.not_eq_true', ← Bool.not_eq_true]
    rfl
  simp only [isInlinable, Bool.or_eq_true, hcopy, or_assoc]
  rfl

theorem Body.Term.isBlank_eq_false_iff {t : Term} :
    t.isBlank = false ↔ t.kind ≠ .newline ∧ t.kind ≠ .whitespace := by
  obtain ⟨kind, text⟩ := t
  cases kind <;> simp [isBlank, Kind.isBlank]

namespace Element

variable {e : Element}

theorem oneLiner_eq :
    e.oneLiner = if e.isInlinable = true ∧ e.typeParams = [] then Body.oneLiner e.code else [] := by
  simp only [oneLiner, Bool.and_eq_true, List.isEmpty_iff]

theorem oneLiner_ne_nil_iff :
    e.oneLiner ≠ [] ↔ e.isInlinable = true ∧ e.typeParams = [] ∧
      ∃ t ∈ e.code, t.kind ≠ .newline ∧ t.kind ≠ .whitespace := by
  rw [oneLiner_eq, ← and_assoc]
  by_cases h : e.isInlinable = true ∧ e.typeParams = []
  · rw [if_pos h, and_iff_right h, Body.oneLiner_ne_nil_iff]
    simp only [Body.Term.isBlank_eq_false_iff]
  · simp [h]

end Element

namespace Bench

variable {b b' : Bench} {a : Act}

/-! ### One act -/

/-- What is done at the bench keeps an element, puts a draft on it, or leaves it as it is. -/
theorem act_cases (h : b.act a = .ok b') :
    (∃ e, b' = b.keep e) ∨ (∃ d, b' = b.put d) ∨ b' = b := by
  have hkeep {x : Except Error Element} (hx : x.map b.keep = .ok b') : ∃ e, b' = b.keep e := by
    obtain ⟨e, -, rfl⟩ := map_eq_ok_iff.mp hx
    exact ⟨e, rfl⟩
  cases a with
  | make parts => exact .inl (hkeep h)
  | makeTagged parts tags => exact .inl (hkeep h)
  | read ambient d => exact .inl (hkeep h)
  | build i => exact .inl (hkeep h)
  | step i s =>
    obtain ⟨d, -, rfl⟩ := map_eq_ok_iff.mp h
    exact .inr (.inl ⟨d, rfl⟩)
  | restart i =>
    simp only [act] at h
    split at h
    · cases h
      exact .inr (.inl ⟨_, rfl⟩)
    · cases h
      exact .inr (.inr rfl)

/-- The line kept with each element is the one-liner that the element has. -/
def IsCurrent (b : Bench) : Prop := ∀ m ∈ b.made, m.line = m.element.oneLiner

theorem isCurrent_empty : empty.IsCurrent := by
  intro m hm
  cases hm

theorem IsCurrent.act (hb : b.IsCurrent) (h : b.act a = .ok b') : b'.IsCurrent := by
  rcases act_cases h with ⟨e, rfl⟩ | ⟨d, rfl⟩ | rfl
  · intro m hm
    rcases List.mem_append.mp hm with hm | hm
    · exact hb m hm
    · rw [List.mem_singleton.mp hm]
      rfl
  · exact hb
  · exact hb

/-- Elements stay as they were kept. -/
theorem prefix_act (h : b.act a = .ok b') : b.made <+: b'.made := by
  rcases act_cases h with ⟨e, rfl⟩ | ⟨d, rfl⟩ | rfl
  · exact List.prefix_append _ _
  · exact List.prefix_rfl
  · exact List.prefix_rfl

/-! ### Runs -/

theorem IsCurrent.run (hb : b.IsCurrent) (acts : List Act) : (b.run acts).IsCurrent := by
  induction acts generalizing b with
  | nil => exact hb
  | cons a acts ih =>
    rw [run_cons]
    cases h : b.act a with
    | error e => exact ih hb
    | ok b' => exact ih (hb.act h)

theorem prefix_run (b : Bench) (acts : List Act) : b.made <+: (b.run acts).made := by
  induction acts generalizing b with
  | nil => exact List.prefix_rfl
  | cons a acts ih =>
    rw [run_cons]
    cases h : b.act a with
    | error e => exact ih b
    | ok b' => exact (prefix_act h).trans (ih b')

/-- **The line kept with an element is its own code on one line,** if its tags allow that and it
declares no type parameters, and nothing else. It is empty unless the code has a term that is not
blank, it is the same for all elements with the same code, tags and type parameters, and nothing
that is done later changes it. -/
theorem run_keeps_lines (acts : List Act) :
    (∀ m ∈ (empty.run acts).made,
      (m.line =
        if (.equals ∈ m.element.tags ∨ .asString ∈ m.element.tags ∨ .hashCode ∈ m.element.tags ∨
            .fromValue ∈ m.element.tags ∨ .copy ∈ m.element.tags ∧ .builder ∉ m.element.tags) ∧
          m.element.typeParams = []
        then Body.oneLiner m.element.code else []) ∧
      (m.line ≠ [] ↔ m.element.isInlinable = true ∧ m.element.typeParams = [] ∧
        ∃ t ∈ m.element.code, t.kind ≠ .newline ∧ t.kind ≠ .whitespace) ∧
      ∀ acts', ∀ m' ∈ (empty.run acts').made, m'.element.code = m.element.code →
        m'.element.tags = m.element.tags → m'.element.typeParams = m.element.typeParams →
          m'.line = m.line) ∧
    ∀ more, (empty.run acts).made <+: (empty.run (acts ++ more)).made := by
  refine ⟨fun m hm => ?_, fun more => ?_⟩
  · have hline := isCurrent_empty.run acts m hm
    rw [hline]
    refine ⟨?_, Element.oneLiner_ne_nil_iff, fun acts' m' hm' hcode htags hparams => ?_⟩
    · simp only [Element.oneLiner_eq, Element.isInlinable, TagSet.isInlinable_iff]
    · rw [isCurrent_empty.run acts' m' hm']
      rw [Element.oneLiner, Element.isInlinable, hcode, htags, hparams]
      rfl
  · rw [run_append]
    exact prefix_run _ more

/-- A body that gets more terms, and is built again, has all of them on its line. -/
theorem run_keeps_lines_restarted :
    ∃ m ∈ (empty.run [
      .make
        ⟨"m", .primitive .int, .identity, [], [⟨.word, "x"⟩], [], .ofList [.equals], .empty, []⟩,
      .restart 0, .step 1 (.addCode [⟨.newline, "\n"⟩, ⟨.word, "y"⟩]), .build 2]).made,
      m.element.code = [⟨.word, "x"⟩, ⟨.newline, "\n"⟩, ⟨.word, "y"⟩] ∧
        m.line = [⟨.word, "x"⟩, .space, ⟨.word, "y"⟩] := by
  obtain ⟨hlines, -⟩ := run_keeps_lines [
    .make ⟨"m", .primitive .int, .identity, [], [⟨.word, "x"⟩], [], .ofList [.equals], .empty, []⟩,
    .restart 0, .step 1 (.addCode [⟨.newline, "\n"⟩, ⟨.word, "y"⟩]), .build 2]
  refine ⟨_, List.mem_of_getElem? (i := 1) rfl, rfl, ?_⟩
  rw [(hlines _ (List.mem_of_getElem? (i := 1) rfl)).1]
  decide

end Bench

end MemberEncoding
