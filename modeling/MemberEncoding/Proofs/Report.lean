import MemberEncoding.Proofs.Body.Compaction
import MemberEncoding.Proofs.Catalog.Loading
import MemberEncoding.Proofs.Descriptor.Sheet
import MemberEncoding.Proofs.Json
import MemberEncoding.Report

/-!
# MemberEncoding.Proofs.Report

**Both reports say the same.** The report for readers, as it is printed, can be put together from
the records in the report for programs (`map_plain_summary`), and so can the warnings that were told
when the elements were read (`warnings_eq`).

The reports ask different questions where they decide whether an element has an inline form: one
looks for terms, and the other for a text. They agree since no term of a body that was read is
without a text. Style sequences are left out of what is printed, and there may be some in a body or
in the path of the file; nothing else that is printed has any.
-/

namespace MemberEncoding

open Text (IsUnstyled isUnstyled_intercalate isUnstyled_of_isIdentifier isUnstyled_toString plain
  plain_append plain_of_isUnstyled)

/-! ### Reports from records -/

namespace Record

/-- Are there several roles? -/
def isAmbiguous (r : Record) : Bool := 1 < r.roles.length

/-- The warning about several roles. -/
def warning (r : Record) : Notice := .severalRoles r.sheet.name r.roles

/-- What a line for readers tells of the roles. -/
def rolesText (r : Record) : String :=
  if r.roles = [] then "-" else ", ".intercalate r.roles

/-- What a line for readers tells of the inline form. -/
def inlineText (r : Record) : String :=
  if r.oneLine = "" then "" else "  ⇒ " ++ plain r.oneLine

/-- The line for readers. -/
def line (r : Record) : String :=
  "  • " ++ Report.padTo 20 r.sheet.name ++ " " ++ r.rolesText ++ r.inlineText

/-- The names on the records with several roles. -/
def ambiguousNames (rs : List Record) : List String :=
  (rs.filter isAmbiguous).map (·.sheet.name)

/-- The lines of the report for readers. -/
def summary (path : String) (rs : List Record) : List String :=
  ["", "Elements in " ++ plain path] ++ rs.map line
    ++ ["", "  Total      : " ++ toString rs.length,
      "  Inlinable  : " ++ toString (rs.countP (·.inlinable))]
    ++ (if ambiguousNames rs = [] then []
      else ["  Ambiguous  : " ++ ", ".intercalate (ambiguousNames rs)])

end Record

/-! ### Lines -/

theorem Role.isUnstyled_name (r : Role) : IsUnstyled r.name := by
  cases r <;> decide

theorem Element.isUnstyled_of_mem_roleNames {e : Element} {name : String}
    (h : name ∈ e.roleNames) : IsUnstyled name := by
  obtain ⟨r, -, rfl⟩ := List.mem_map.mp h
  exact r.isUnstyled_name

/-- The terms of code that can be written down have the shapes of their kinds. -/
theorem Element.IsWritable.areShaped_code {e : Element} (h : e.IsWritable) :
    Body.AreShaped e.code := by
  rw [← h.code]
  exact (Body.isSegmentation_termsOf _).shaped

namespace Report

variable {path : String} {e : Element} {es : List Element}

theorem isUnstyled_padTo {s : String} (h : IsUnstyled s) (width : Nat) :
    IsUnstyled (padTo width s) := by
  refine h.append (Text.isUnstyled_ofList fun hmem => ?_)
  exact absurd (List.eq_of_mem_replicate hmem) (by decide)

theorem isUnstyled_rolesText (e : Element) : IsUnstyled e.record.rolesText := by
  unfold Record.rolesText
  by_cases h : e.record.roles = []
  · rw [if_pos h]
    decide
  · rw [if_neg h]
    exact isUnstyled_intercalate (by decide) fun _ hname => e.isUnstyled_of_mem_roleNames hname

/-- The record has a text just when there are terms in the inline form. -/
theorem oneLine_eq_empty_iff (h : e.IsWritable) : e.record.oneLine = "" ↔ e.oneLiner = [] := by
  show Body.join e.oneLiner = "" ↔ e.oneLiner = []
  unfold Element.oneLiner
  by_cases hinline : (e.isInlinable && e.typeParams.isEmpty) = true
  · rw [if_pos hinline]
    exact Body.join_oneLiner_eq_empty_iff h.areShaped_code
  · rw [if_neg hinline]
    exact iff_of_true rfl rfl

/-- The line of an element is printed as the line of its record. -/
theorem plain_elementLine (h : e.IsWritable) : plain (elementLine e) = e.record.line := by
  have hbullet : IsUnstyled "  • " := by decide
  have hspace : IsUnstyled " " := by decide
  have hname := isUnstyled_padTo (isUnstyled_of_isIdentifier e.identifier) 20
  have hfront := ((hbullet.append hname).append hspace).append (isUnstyled_rolesText e)
  have hinline : plain (if e.oneLiner = [] then "" else "  ⇒ " ++ Body.join e.oneLiner) =
      e.record.inlineText := by
    unfold Record.inlineText
    by_cases hnil : e.oneLiner = []
    · rw [if_pos hnil, if_pos ((oneLine_eq_empty_iff h).mpr hnil)]
      rfl
    · rw [if_neg hnil, if_neg (mt (oneLine_eq_empty_iff h).mp hnil)]
      exact plain_append (by decide) _
  rw [elementLine, Record.line, ← hinline]
  exact plain_append hfront _

theorem ambiguous_eq (es : List Element) :
    ambiguous es = Record.ambiguousNames (es.map Element.record) := by
  rw [ambiguous, Record.ambiguousNames, List.filter_map, List.map_map]
  rfl

theorem isUnstyled_of_mem_ambiguous {name : String} (h : name ∈ ambiguous es) :
    IsUnstyled name := by
  obtain ⟨e, -, rfl⟩ := List.mem_map.mp h
  exact isUnstyled_of_isIdentifier e.identifier

/-- A line with a number is printed as it is. -/
theorem plain_numberLine (label : String) (h : IsUnstyled label) (n : Nat) :
    plain (label ++ toString n) = label ++ toString n :=
  plain_of_isUnstyled (h.append (isUnstyled_toString n))

/-- The line with the names, if there are any, is printed as it is. -/
theorem plain_ambiguousLine (es : List Element) :
    plain ("  Ambiguous  : " ++ ", ".intercalate (ambiguous es)) =
      "  Ambiguous  : " ++ ", ".intercalate (ambiguous es) := by
  have hnames : IsUnstyled (", ".intercalate (ambiguous es)) :=
    isUnstyled_intercalate (by decide) fun _ hname => isUnstyled_of_mem_ambiguous hname
  exact plain_of_isUnstyled (IsUnstyled.append (by decide) hnames)

/-- **The report for readers is printed as the one that is put together from the records.** -/
theorem map_plain_summary (path : String) (h : ∀ e ∈ es, e.IsWritable) :
    (summary path es).map plain = Record.summary path (es.map Element.record) := by
  have hhead : plain ("Elements in " ++ path) = "Elements in " ++ plain path :=
    plain_append (by decide) path
  have hlines : (es.map elementLine).map plain = (es.map Element.record).map Record.line := by
    rw [List.map_map, List.map_map]
    exact List.map_congr_left fun e he => plain_elementLine (h e he)
  have hcount : (es.map Element.record).countP (·.inlinable) =
      es.countP fun e => e.isInlinable := List.countP_map ..
  have hambiguous : (if ambiguous es = [] then []
      else ["  Ambiguous  : " ++ ", ".intercalate (ambiguous es)]).map plain =
      if ambiguous es = [] then []
      else ["  Ambiguous  : " ++ ", ".intercalate (ambiguous es)] := by
    by_cases hnil : ambiguous es = []
    · rw [if_pos hnil, List.map_nil]
    · rw [if_neg hnil, List.map_cons, List.map_nil, plain_ambiguousLine]
  have htotal := plain_numberLine "  Total      : " (by decide) es.length
  have hinlinable := plain_numberLine "  Inlinable  : " (by decide)
    (es.countP fun e => e.isInlinable)
  rw [summary, Record.summary, List.map_append, List.map_append, List.map_append, hlines,
    hambiguous, hcount, List.length_map, ← ambiguous_eq]
  simp only [List.map_cons, List.map_nil, hhead, htotal, hinlinable]
  rfl

end Report

/-- The warnings that are told when elements are read are those of the records. -/
theorem Catalog.warnings_eq (es : List Element) :
    warnings es = ((es.map Element.record).filter Record.isAmbiguous).map Record.warning := by
  rw [warnings, List.filter_map, List.map_map]
  rfl

end MemberEncoding
