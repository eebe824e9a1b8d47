import MemberEncoding.Proofs.Body.LineBreaks
import MemberEncoding.Proofs.Command.Inspection

/-!
# MemberEncoding.Proofs.Command.SummaryLines

**The report for readers has a line per element** (`one_line_but_for_literals`), as long as no
literal in its inline form has an escaped line break.

Names, roles and fixed wordings have no line breaks, so all that may bring one in is the inline form
(`Report.hasBreak_line_iff`), which is the code on one line. Printing leaves out style sequences,
and none of these has a line break either.
-/

namespace MemberEncoding

open Body (HasBreak hasBreak_append)

/-! ### The inline form of an element -/

/-- There is a line break in the inline form if there is an inline form, and a literal of the code
has one. -/
theorem Element.IsWritable.hasBreak_oneLiner_iff {e : Element} (h : e.IsWritable) :
    HasBreak (Body.join e.oneLiner) ↔ e.oneLiner ≠ [] ∧ ∃ t ∈ e.code, t.HoldsBreak := by
  have hbody := Body.hasBreak_join_oneLiner_iff h.areShaped_code
  have hnot : ¬ HasBreak (Body.join []) := by decide
  unfold Element.oneLiner
  by_cases hinline : (e.isInlinable && e.typeParams.isEmpty) = true
  · rw [if_pos hinline, ← hbody]
    refine ⟨fun hbreak => ⟨fun hnil => ?_, hbreak⟩, And.right⟩
    rw [hnil] at hbreak
    exact hnot hbreak
  · rw [if_neg hinline]
    exact iff_of_false hnot fun hboth => hboth.1 rfl

/-! ### The line of an element -/

theorem hasBreak_plain_iff (s : String) : HasBreak (Text.plain s) ↔ HasBreak s := by
  have hmem : ∀ {c : Char}, Body.isBreak c = true →
      (c ∈ (Text.plain s).toList ↔ c ∈ s.toList) := by
    intro c hc
    refine Text.mem_plain_iff ?_ s
    rcases Body.isBreak_iff.mp hc with rfl | rfl
    · decide
    · decide
  constructor
  · intro h
    obtain ⟨c, hc, hbreak⟩ := h
    exact ⟨c, (hmem hbreak).mp hc, hbreak⟩
  · intro h
    obtain ⟨c, hc, hbreak⟩ := h
    exact ⟨c, (hmem hbreak).mpr hc, hbreak⟩

theorem not_hasBreak_of_isIdentifier {s : String} (h : Text.isIdentifier s = true) :
    ¬ HasBreak s := by
  intro hbreaks
  obtain ⟨c, hc, hbreak⟩ := hbreaks
  have hnot := Body.isBreak_eq_false (by decide) (by decide) (Text.isNamePart_of_mem h hc)
  rw [hnot] at hbreak
  cases hbreak

namespace Report

theorem not_hasBreak_padTo {s : String} (h : ¬ HasBreak s) (width : Nat) :
    ¬ HasBreak (padTo width s) := by
  intro hbreaks
  rcases hasBreak_append.mp hbreaks with hbreaks | ⟨c, hc, hbreak⟩
  · exact h hbreaks
  · rw [String.toList_ofList] at hc
    rw [List.eq_of_mem_replicate hc] at hbreak
    cases hbreak

theorem not_hasBreak_rolesText (e : Element) : ¬ HasBreak e.record.rolesText := by
  unfold Record.rolesText
  by_cases h : e.record.roles = []
  · rw [if_pos h]
    decide
  · rw [if_neg h]
    intro hbreaks
    obtain ⟨c, hc, hbreak⟩ := hbreaks
    rcases Text.mem_intercalate hc with hc | ⟨name, hname, hc⟩
    · have hseparator : ¬ HasBreak ", " := by decide
      exact hseparator ⟨c, hc, hbreak⟩
    · obtain ⟨r, -, rfl⟩ := List.mem_map.mp hname
      have hrole : ¬ HasBreak r.name := by cases r <;> decide
      exact hrole ⟨c, hc, hbreak⟩

theorem hasBreak_inlineText_iff (e : Element) :
    HasBreak e.record.inlineText ↔ HasBreak (Body.join e.oneLiner) := by
  have hnot : ¬ HasBreak "" := by decide
  have harrow : ¬ HasBreak "  ⇒ " := by decide
  show HasBreak (if Body.join e.oneLiner = "" then "" else _) ↔ _
  by_cases h : Body.join e.oneLiner = ""
  · rw [if_pos h, h]
  · rw [if_neg h, hasBreak_append, or_iff_right harrow]
    exact hasBreak_plain_iff _

/-- The line of an element is one line just when its inline form is. -/
theorem hasBreak_line_iff (e : Element) :
    HasBreak e.record.line ↔ HasBreak (Body.join e.oneLiner) := by
  have hbullet : ¬ HasBreak "  • " := by decide
  have hspace : ¬ HasBreak " " := by decide
  have hname := not_hasBreak_padTo (not_hasBreak_of_isIdentifier e.identifier) 20
  have hroles := not_hasBreak_rolesText e
  rw [Record.line, hasBreak_append, hasBreak_append, hasBreak_append, hasBreak_append,
    hasBreak_inlineText_iff]
  show (((HasBreak "  • " ∨ HasBreak (padTo 20 e.name)) ∨ HasBreak " ") ∨ _) ∨ _ ↔ _
  simp only [hbullet, hname, hspace, hroles, or_self, false_or]

end Report

namespace Command

open Body (oneLiner terms join)

/-! ### The lines of the report -/

/-- The report for readers has the lines of the elements in their order, behind the path. -/
theorem exists_inspect_summary {path : String} {typeVars : List String}
    {document : Except Error Value} {es : List Element} (h : Loads path typeVars document es)
    (verbose : Bool) :
    ∃ foot telling, inspect verbose path false typeVars document = .ok ⟨0, lines
      (["", "Elements in " ++ Text.plain path] ++ es.map (fun e => e.record.line) ++ foot),
      telling⟩ := by
  obtain ⟨foot, hsummary⟩ : ∃ foot, Record.summary path (es.map Element.record) =
      ["", "Elements in " ++ Text.plain path] ++ (es.map Element.record).map Record.line ++ foot :=
    ⟨_, List.append_assoc ..⟩
  rw [List.map_map] at hsummary
  refine ⟨foot, told verbose (noticesOn path (es.map Element.record)), ?_⟩
  rw [inspect_of_loads h, reportOn, if_neg Bool.false_ne_true, hsummary]
  rfl

/-- **A body on one line is one line but for the line breaks that are escaped in its literals.** So
is the inline form of an element that is read, and in the report for readers there is a line for
each element, in which there is no other line break. -/
theorem one_line_but_for_literals :
    (∀ text,
      (∀ t ∈ oneLiner (terms text), ∀ before c after, t.text.toList = before ++ c :: after →
        Body.isBreak c = true → t.IsEscapedBehind before) ∧
      (HasBreak (join (oneLiner (terms text))) ↔ ∃ t ∈ terms text, t.HoldsBreak)) ∧
    (∀ ambient d e, (Descriptor.read ambient d).outcome = .ok e →
      (HasBreak (join e.oneLiner) ↔ e.oneLiner ≠ [] ∧ ∃ t ∈ e.code, t.HoldsBreak)) ∧
    ∀ verbose path typeVars document es, Loads path typeVars document es →
      ∃ foot telling, inspect verbose path false typeVars document = .ok ⟨0, lines
          (["", "Elements in " ++ Text.plain path] ++ es.map (fun e => e.record.line) ++ foot),
          telling⟩ ∧
        ∀ e ∈ es, (HasBreak e.record.line ↔ e.oneLiner ≠ [] ∧ ∃ t ∈ e.code, t.HoldsBreak) := by
  refine ⟨fun text => ?_, fun ambient d e hread => ?_,
    fun verbose path typeVars document es hloads => ?_⟩
  · have hshaped : Body.AreShaped (terms text) := (Body.isSegmentation_termsOf _).shaped
    exact ⟨fun t ht before c after hsplit hc =>
      Body.isEscapedBehind_of_mem_oneLiner hshaped ht hc hsplit,
      Body.hasBreak_join_oneLiner_iff hshaped⟩
  · exact (Descriptor.outcome_read_eq_ok_iff.mp hread).isWritable.hasBreak_oneLiner_iff
  · obtain ⟨foot, telling, hinspect⟩ := exists_inspect_summary hloads verbose
    refine ⟨foot, telling, hinspect, fun e he => ?_⟩
    rw [Report.hasBreak_line_iff]
    exact ((loadElements_of_loads hloads).1 e he).hasBreak_oneLiner_iff

/-- An element with a literal that goes on below: the line break in it is escaped, and it is in the
inline form and in the report. -/
theorem one_line_but_for_literals_copy :
    let text := "\"a\\\nb\""
    let d : Descriptor := [(.text "name", .text "x"), (.text "type", .text "int"),
      (.text "code", .text text), (.text "tags", .texts ["copy"])]
    let document : Except Error Value := .ok (.map [(.text "elements", .list [.map d])])
    (⟨.string, text⟩ : Body.Term).IsEscapedBehind ['"', 'a', '\\'] ∧
      ∃ e, (Descriptor.read .empty d).outcome = .ok e ∧ HasBreak (join e.oneLiner) ∧
        Loads "elements.yaml" [] document [e] ∧ HasBreak e.record.line := by
  intro text d document
  let code : List Body.Term := [⟨.string, text⟩]
  let e : Element := ⟨⟨"x", .primitive .int, .identity, [], code, [], .ofList [.copy], .empty, []⟩,
    by decide, by decide, by decide⟩
  have hdescribes : Descriptor.Describes .empty d e := {
    keys := by decide +kernel
    name := rfl
    ambient := rfl
    distinct := by decide
    typeParams := ⟨[], .absent, .nil⟩
    type := ⟨_, "int", rfl, rfl, TypeRef.read_of_lex (by decide +kernel) (by decide +kernel)⟩
    naming := ⟨"*", .absent, by decide +kernel⟩
    params := ⟨[], .absent, .nil⟩
    code := ⟨text, .text rfl rfl, by decide +kernel⟩
    thrown := ⟨[], .absent, .nil⟩
    tags := ⟨["copy"], .list _, by decide +kernel⟩ }
  have hread := Descriptor.outcome_read_eq_ok_iff.mpr hdescribes
  have hloads : Loads "elements.yaml" [] document [e] := by
    refine ⟨.empty, rfl, ?_⟩
    show (Catalog.read "elements.yaml" .empty _).elements = _
    have hentry : Catalog.IsReadAs .empty (.map d) e := by
      refine ⟨d, rfl, ?_⟩
      rw [Catalog.readAlone_eq]
      exact hread
    rw [Catalog.read_of_read "elements.yaml" ⟨_, rfl, rfl⟩ (.cons hentry .nil)]
  have hholds : e.oneLiner ≠ [] ∧ ∃ t ∈ e.code, t.HoldsBreak := by
    refine ⟨by decide +kernel, ⟨.string, text⟩, List.mem_cons_self .., rfl, by decide +kernel⟩
  obtain ⟨hbody, helement, hreport⟩ := one_line_but_for_literals
  obtain ⟨foot, telling, -, hline⟩ := hreport false "elements.yaml" [] document [e] hloads
  refine ⟨?_, e, hread, (helement .empty d e hread).mpr hholds, hloads,
    (hline e (List.mem_cons_self ..)).mpr hholds⟩
  exact (hbody text).1 ⟨.string, text⟩ (by decide +kernel) _ '\n' ['b', '"'] (by decide +kernel)
    (by decide)

/-- The line break in a literal is there on the one line. -/
theorem oneLiner_keeps_escaped_break :
    let text := "\"a\\\nb\""
    join (oneLiner (terms text)) = text ∧ '\n' ∈ text.toList := by
  decide +kernel

end Command

end MemberEncoding
