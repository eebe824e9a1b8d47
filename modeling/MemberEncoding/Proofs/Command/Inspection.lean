import MemberEncoding.Command.Invocation
import MemberEncoding.Proofs.Report

/-!
# MemberEncoding.Proofs.Command.Inspection

**An inspection reports all elements or nothing** (`inspect_reports_all_or_nothing`). It ends well
just when the type variables are accepted as a scope and the catalog is read in it. Then both
reports are made of the records of the elements, and what is told are the warnings about the records
with several roles and the two counts. Otherwise nothing is reported and the error is told.

One kind of failure is not told. Reading a document may fail in ways that are neither a bad document
nor a bad value, as for a truth value that is none (`inspect_flag_not_told`). Such an error ends the
program. Errors of scopes and of catalogs are all told.
-/

namespace MemberEncoding.Command

open Text (plain plain_append)

variable {path : String} {typeVars : List String} {document : Except Error Value}

/-! ### What is loaded -/

/-- The type variables are accepted as a scope, and the elements are those of the file in it. -/
def Loads (path : String) (typeVars : List String) (document : Except Error Value)
    (es : List Element) : Prop :=
  ∃ scope, Scope.ofList typeVars = .ok scope ∧
    (Catalog.load path scope document).elements = .ok es

theorem loads_iff {es : List Element} :
    Loads path typeVars document es ↔
      (loadElements path typeVars document).elements = .ok es := by
  unfold Loads loadElements
  cases Scope.ofList typeVars with
  | error e =>
    constructor
    · intro h
      obtain ⟨scope, hscope, -⟩ := h
      cases hscope
    · intro h
      cases h
  | ok scope =>
    constructor
    · intro h
      obtain ⟨scope', hscope, hload⟩ := h
      cases hscope
      exact hload
    · intro h
      exact ⟨scope, rfl, h⟩

/-- Elements that are read from entries can be written down. -/
theorem isWritable_of_isReadAs {scope : Scope} {entry : Value} {e : Element}
    (h : Catalog.IsReadAs scope entry e) : e.IsWritable := by
  obtain ⟨d, -, hread⟩ := h
  rw [Catalog.readAlone_eq] at hread
  exact (Descriptor.outcome_read_eq_ok_iff.mp hread).isWritable

theorem isTold_of_invalid {e : Error} (h : e.category = .invalid) : isTold e = true := by
  rw [isTold, h]
  rfl

theorem isTold_of_ofList_eq_error {names : List String} {e : Error}
    (h : Scope.ofList names = .error e) : isTold e = true := by
  unfold Scope.ofList at h
  by_cases hnodup : names.Nodup
  · rw [dif_pos hnodup] at h
    cases h
  · rw [dif_neg hnodup] at h
    cases h
    rfl

/-- Loading succeeds with the warnings about the elements and their count, or it fails with an error
that is told unless it comes from reading the document. -/
theorem loadElements_cases (path : String) (typeVars : List String)
    (document : Except Error Value) :
    (∃ es, (∀ e ∈ es, e.IsWritable) ∧ loadElements path typeVars document =
      ⟨Catalog.warnings es ++ [.loaded es.length path], .ok es⟩) ∨
    ∃ notices e, loadElements path typeVars document = ⟨notices, .error e⟩ ∧
      (isTold e = false → (∃ scope, Scope.ofList typeVars = .ok scope) ∧ document = .error e) := by
  unfold loadElements
  cases hscope : Scope.ofList typeVars with
  | error e =>
    refine .inr ⟨[], e, rfl, fun hnot => ?_⟩
    rw [isTold_of_ofList_eq_error hscope] at hnot
    cases hnot
  | ok scope =>
    cases document with
    | error e => exact .inr ⟨[], e, rfl, fun _ => ⟨⟨scope, rfl⟩, rfl⟩⟩
    | ok document =>
      rcases Catalog.read_cases path scope document with
        ⟨entries, es, -, hentries, hread⟩ | ⟨notices, e, hread, hkind, -⟩
      · have hwritable := forall_of_forall₂ hentries fun _ _ h => isWritable_of_isReadAs h
        exact .inl ⟨es, hwritable, hread⟩
      · refine .inr ⟨notices, e, hread, fun hnot => ?_⟩
        rw [isTold_of_invalid hkind] at hnot
        cases hnot

/-! ### What is printed -/

/-- The lines that tell notices. -/
def told (verbose : Bool) (notices : List Notice) : String :=
  lines (notices.filterMap (noticeLine? verbose))

/-- What is told of an error, as it is printed. -/
def explanation (path : String) (e : Error) : String :=
  plain (if e.category = .missingFile then "descriptor file not found: " ++ path else e.message)

/-- The report on records, as it is printed. -/
def reportOn (path : String) (asJson : Bool) (rs : List Record) : String :=
  lines (if asJson then [(Json.list (rs.map Record.json)).render] else Record.summary path rs)

theorem printed_errorLine (path : String) (e : Error) :
    printed [errorLine path e] = "Error: " ++ explanation path e ++ "\n" := by
  have hline : errorLine path e = "Error: " ++
      if e.category = .missingFile then "descriptor file not found: " ++ path else e.message := by
    unfold errorLine
    by_cases h : e.category = .missingFile
    · rw [if_pos h, if_pos h, ← String.append_assoc]
      rfl
    · rw [if_neg h, if_neg h]
  have hprinted : printed [errorLine path e] = plain (errorLine path e) ++ "\n" := by
    simp [printed, lines]
  rw [hprinted, hline, plain_append (by decide)]
  rfl

theorem printed_report {es : List Element} (h : ∀ e ∈ es, e.IsWritable) (asJson : Bool) :
    printed (if asJson then [(Report.records es).render] else Report.summary path es) =
      reportOn path asJson (es.map Element.record) := by
  cases asJson with
  | false =>
    show lines ((Report.summary path es).map plain) = _
    rw [Report.map_plain_summary path h]
    rfl
  | true =>
    have hrecords : Report.records es = Json.list ((es.map Element.record).map Record.json) := by
      rw [Report.records, List.map_map]
      rfl
    show lines [plain (Report.records es).render] = _
    rw [Json.plain_render, hrecords]
    rfl

/-- The notices about elements that are inspected, by their records. -/
def noticesOn (path : String) (rs : List Record) : List Notice :=
  (rs.filter Record.isAmbiguous).map Record.warning ++
    [.loaded rs.length path, .inspecting rs.length path]

theorem inspect_of_ok {es : List Element} (hwritable : ∀ e ∈ es, e.IsWritable)
    (h : loadElements path typeVars document =
      ⟨Catalog.warnings es ++ [.loaded es.length path], .ok es⟩) (verbose asJson : Bool) :
    inspect verbose path asJson typeVars document =
      .ok ⟨0, reportOn path asJson (es.map Element.record),
        told verbose (noticesOn path (es.map Element.record))⟩ := by
  unfold inspect
  rw [h]
  dsimp only
  rw [printed_report hwritable, Catalog.warnings_eq, noticesOn, List.length_map, told]
  simp only [List.append_assoc]
  rfl

theorem inspect_of_error {notices : List Notice} {e : Error}
    (h : loadElements path typeVars document = ⟨notices, .error e⟩) (verbose asJson : Bool) :
    inspect verbose path asJson typeVars document =
      if isTold e then
        .ok ⟨1, "", told verbose notices ++ ("Error: " ++ explanation path e ++ "\n")⟩
      else .error e := by
  unfold inspect
  rw [h]
  dsimp only
  rw [printed_errorLine]
  rfl

/-! ### What comes of an inspection -/

/-- What is loaded can be written down, and only the warnings and the count are told. -/
theorem loadElements_of_loads {es : List Element} (h : Loads path typeVars document es) :
    (∀ e ∈ es, e.IsWritable) ∧ loadElements path typeVars document =
      ⟨Catalog.warnings es ++ [.loaded es.length path], .ok es⟩ := by
  rw [loads_iff] at h
  rcases loadElements_cases path typeVars document with
    ⟨es', hwritable, hload⟩ | ⟨notices, e, hload, -⟩
  · rw [hload] at h
    obtain rfl := Except.ok.inj h
    exact ⟨hwritable, hload⟩
  · rw [hload] at h
    cases h

theorem inspect_of_loads {es : List Element} (h : Loads path typeVars document es)
    (verbose asJson : Bool) :
    inspect verbose path asJson typeVars document =
      .ok ⟨0, reportOn path asJson (es.map Element.record),
        told verbose (noticesOn path (es.map Element.record))⟩ := by
  obtain ⟨hwritable, hload⟩ := loadElements_of_loads h
  exact inspect_of_ok hwritable hload verbose asJson

/-- What an inspection prints that does not end well. -/
theorem inspect_eq_ok_cases {verbose asJson : Bool} {out : Output}
    (h : inspect verbose path asJson typeVars document = .ok out) :
    (out.exitCode = 0 ∧ ∃ es, Loads path typeVars document es) ∨
    ∃ notices e, loadElements path typeVars document = ⟨notices, .error e⟩ ∧
      out = ⟨1, "", told verbose notices ++ ("Error: " ++ explanation path e ++ "\n")⟩ := by
  rcases loadElements_cases path typeVars document with
    ⟨es, hwritable, hload⟩ | ⟨notices, e, hload, -⟩
  · rw [inspect_of_ok hwritable hload] at h
    cases h
    exact .inl ⟨rfl, es, loads_iff.mpr (by rw [hload])⟩
  · rw [inspect_of_error hload] at h
    cases he : isTold e with
    | true =>
      rw [he, if_pos rfl] at h
      cases h
      exact .inr ⟨notices, e, hload, rfl⟩
    | false =>
      rw [he, if_neg Bool.false_ne_true] at h
      cases h

theorem inspect_eq_error_iff {verbose asJson : Bool} {e : Error} :
    inspect verbose path asJson typeVars document = .error e ↔
      (∃ scope, Scope.ofList typeVars = .ok scope) ∧ document = .error e ∧ isTold e = false := by
  constructor
  · intro h
    rcases loadElements_cases path typeVars document with
      ⟨es, hwritable, hload⟩ | ⟨notices, e', hload, hdocument⟩
    · rw [inspect_of_ok hwritable hload] at h
      cases h
    · rw [inspect_of_error hload] at h
      cases he : isTold e' with
      | true =>
        rw [he, if_pos rfl] at h
        cases h
      | false =>
        rw [he, if_neg Bool.false_ne_true] at h
        cases h
        obtain ⟨hscope, hdocument⟩ := hdocument he
        exact ⟨hscope, hdocument, he⟩
  · rintro ⟨⟨scope, hscope⟩, rfl, he⟩
    have hload : loadElements path typeVars (.error e) = ⟨[], .error e⟩ := by
      rw [loadElements, hscope]
      rfl
    rw [inspect_of_error hload, he]
    rfl

/-- **An inspection reports all elements or nothing.** It ends well just when the elements are
loaded. Both reports are then made of their records, which also give the warnings. Otherwise nothing
is reported and the error is told, unless reading the document fails in a way that ends the program
with nothing told at all. -/
theorem inspect_reports_all_or_nothing (verbose : Bool) (path : String) (typeVars : List String)
    (document : Except Error Value) :
    let output := fun asJson => inspect verbose path asJson typeVars document
    (∀ asJson, (∃ out, output asJson = .ok out ∧ out.exitCode = 0) ↔
      ∃ es, Loads path typeVars document es) ∧
    (∀ es, Loads path typeVars document es →
      let rs := es.map Element.record
      let telling := told verbose (noticesOn path rs)
      output true = .ok ⟨0, lines [(Json.list (rs.map Record.json)).render], telling⟩ ∧
      output false = .ok ⟨0, lines (Record.summary path rs), telling⟩) ∧
    (∀ asJson out, output asJson = .ok out → out.exitCode ≠ 0 →
      ∃ notices e, loadElements path typeVars document = ⟨notices, .error e⟩ ∧
        out = ⟨1, "", told verbose notices ++ ("Error: " ++ explanation path e ++ "\n")⟩) ∧
    ∀ asJson e, output asJson = .error e ↔
      (∃ scope, Scope.ofList typeVars = .ok scope) ∧ document = .error e ∧ isTold e = false := by
  intro output
  refine ⟨fun asJson => ⟨?_, ?_⟩, ?_, ?_, fun asJson e => inspect_eq_error_iff⟩
  · intro h
    obtain ⟨out, hout, hcode⟩ := h
    rcases inspect_eq_ok_cases hout with ⟨-, hloads⟩ | ⟨notices, e, -, rfl⟩
    · exact hloads
    · cases hcode
  · intro h
    obtain ⟨es, hloads⟩ := h
    exact ⟨_, inspect_of_loads hloads verbose asJson, rfl⟩
  · intro es hloads
    exact ⟨inspect_of_loads hloads verbose true, inspect_of_loads hloads verbose false⟩
  · intro asJson out hout hcode
    rcases inspect_eq_ok_cases hout with ⟨hzero, -⟩ | herror
    · exact absurd hzero hcode
    · exact herror

/-- An accessor with two roles, whose type is the type variable that is given. -/
theorem inspect_accessor :
    let d : Descriptor := [(.text "name", .text "x"), (.text "type", .text "T"),
      (.text "code", .text "a  ;"), (.text "tags", .texts ["copy", "equals"])]
    let document : Except Error Value := .ok (.map [(.text "elements", .list [.map d])])
    let line := "  • x                    is_equals, is_copy  ⇒ a ;"
    (∃ es, Loads "elements.yaml" ["T"] document es) ∧
      inspect false "elements.yaml" false ["T"] document = .ok ⟨0,
        "\nElements in elements.yaml\n" ++ line ++
          "\n\n  Total      : 1\n  Inlinable  : 1\n  Ambiguous  : x\n",
        "Element x answers several roles: is_equals, is_copy\n"⟩ := by
  intro d document line
  let scope : Scope := ⟨["T"], by decide⟩
  let code : List Body.Term := [⟨.word, "a"⟩, ⟨.whitespace, "  "⟩, ⟨.delimiter, ";"⟩]
  let e : Element := ⟨⟨"x", .var "T", .identity, [], code, [], .ofList [.copy, .equals], scope, []⟩,
    by decide, by decide, by decide⟩
  have hdescribes : Descriptor.Describes scope d e := {
    keys := by decide +kernel
    name := rfl
    ambient := rfl
    distinct := by decide
    typeParams := ⟨[], .absent, .nil⟩
    type := ⟨_, "T", rfl, rfl, TypeRef.read_of_lex (by decide +kernel) (by decide +kernel)⟩
    naming := ⟨"*", .absent, by decide +kernel⟩
    params := ⟨[], .absent, .nil⟩
    code := ⟨"a  ;", .text rfl rfl, by decide +kernel⟩
    thrown := ⟨[], .absent, .nil⟩
    tags := ⟨["copy", "equals"], .list _, by decide +kernel⟩ }
  have hread : Catalog.IsReadAs scope (.map d) e := by
    refine ⟨d, rfl, ?_⟩
    rw [Catalog.readAlone_eq]
    exact Descriptor.outcome_read_eq_ok_iff.mpr hdescribes
  have hloads : Loads "elements.yaml" ["T"] document [e] := by
    refine ⟨scope, rfl, ?_⟩
    show (Catalog.read "elements.yaml" scope _).elements = _
    rw [Catalog.read_of_read "elements.yaml" ⟨_, rfl, rfl⟩ (.cons hread .nil)]
  refine ⟨⟨[e], hloads⟩, ?_⟩
  have hreport : lines (Record.summary "elements.yaml" ([e].map Element.record)) =
      "\nElements in elements.yaml\n" ++ line ++
        "\n\n  Total      : 1\n  Inlinable  : 1\n  Ambiguous  : x\n" := by
    decide +kernel
  have htold : told false (noticesOn "elements.yaml" ([e].map Element.record)) =
      "Element x answers several roles: is_equals, is_copy\n" := by
    decide +kernel
  obtain ⟨-, houtput, -, -⟩ :=
    inspect_reports_all_or_nothing false "elements.yaml" ["T"] document
  refine (houtput [e] hloads).2.trans ?_
  rw [hreport, htold]

/-- A file with a truth value that is none. -/
theorem documentOfText_flag :
    Catalog.documentOfText "elements.yaml" "elements: !!bool maybe\n" =
      .error (.invalidData (.notTruth "maybe")) := by
  have hfault : (match Catalog.documentOfText "elements.yaml" "elements: !!bool maybe\n" with
      | .error e => decide (e = .invalidData (.notTruth "maybe"))
      | .ok _ => false) = true := by
    decide +kernel
  cases hdocument : Catalog.documentOfText "elements.yaml" "elements: !!bool maybe\n" with
  | error e =>
    rw [hdocument] at hfault
    exact congrArg _ (of_decide_eq_true hfault)
  | ok document =>
    rw [hdocument] at hfault
    cases hfault

/-- Nothing comes of inspecting it, not even an error that is told. -/
theorem inspect_flag_not_told :
    let document := Catalog.documentOfText "elements.yaml" "elements: !!bool maybe\n"
    (∀ es, ¬ Loads "elements.yaml" [] document es) ∧
      ∀ verbose asJson out, inspect verbose "elements.yaml" asJson [] document ≠ .ok out := by
  intro document
  have hinspect : ∀ verbose asJson, inspect verbose "elements.yaml" asJson [] document =
      .error (.invalidData (.notTruth "maybe")) := fun _ _ =>
    inspect_eq_error_iff.mpr ⟨⟨_, rfl⟩, documentOfText_flag, rfl⟩
  refine ⟨fun es h => ?_, fun verbose asJson out h => ?_⟩
  · have hloads := inspect_of_loads h false false
    rw [hinspect] at hloads
    cases hloads
  · rw [hinspect] at h
    cases h

end MemberEncoding.Command
