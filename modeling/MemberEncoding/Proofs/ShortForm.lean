import MemberEncoding.Proofs.Parameter

/-!
# MemberEncoding.Proofs.ShortForm

**Short forms are read again exactly where their types are canonical**
(`TypeParameter.read_inverts_shortForm`, `Parameter.readLines_inverts_shortForms`). That a canonical
type can be read is known, and whatever is read is canonical; so the one condition serves a line
with one type, a line with any number of bounds and any number of lines.

A type variable with the name of a primitive type is not canonical in any scope, as the name is that
of the primitive type first. A declaration may well bring such a variable into scope, which then
cannot be referred to (`Parameter.keyword_variable_not_read`).

Reading lines goes line by line. Blank lines are passed over (`readLines_blank_cons`), any other
line is read before those behind it (`outcome_readLines_solid_cons`), and what holds of all lines
follows by induction on them.
-/

namespace MemberEncoding

open TypeRef (Canonical)

variable {s : Scope}

/-! ### Type parameters -/

namespace TypeParameter

/-- The texts of the bounds that a line declares: those between ampersands behind the first colon,
and none if there is no colon. -/
def boundTexts (line : String) : List String :=
  match Text.cutFirst ':' line with
  | (_, none) => []
  | (_, some bounds) => Text.cutAll '&' bounds

/-- A line is read as the name that it declares and its bounds, each read from its own text. -/
theorem outcome_read_eq_ok_iff_boundTexts {line : String} {p : TypeParameter} :
    (read s line).outcome = .ok p ↔ declaredName line = p.name ∧
      List.Forall₂ (fun piece b => (TypeRef.read s piece).outcome = .ok b)
        (boundTexts line) p.bounds := by
  rw [outcome_read_eq_ok_iff, declaredName, boundTexts]
  rcases Text.cutFirst ':' line with ⟨name, _ | bounds⟩
  · simp [List.forall₂_nil_left_iff]
  · simp

/-- The colon separates the name, which has none, from the bounds if there are any. -/
theorem colon_mem_text_iff (p : TypeParameter) : ':' ∈ p.text.toList ↔ p.bounds ≠ [] := by
  by_cases h : p.bounds = []
  · rw [text_of_bounds_eq_nil h]
    exact iff_of_false (colon_not_mem p.identifier) (not_not_intro h)
  · rw [text_of_bounds_ne_nil h]
    simp [h]

/-- **The short form of a type parameter is read again exactly if its bounds are canonical,** and
it has a colon exactly if there are bounds. Whatever a line is read as, its bounds are declared by
name, they are read one by one from the texts between the ampersands, and the short form is read
as the same again. -/
theorem read_inverts_shortForm (s : Scope) :
    (∀ p : TypeParameter, (':' ∈ p.text.toList ↔ p.bounds ≠ []) ∧
      ((read s p.text).outcome = .ok p ↔ ∀ b ∈ p.bounds, Canonical s b)) ∧
    ∀ line p, (read s line).outcome = .ok p →
      (∀ b ∈ p.bounds, (∃ r, b = .reference r) ∨ ∃ head args, b = .parameterized head args) ∧
      List.Forall₂ (fun piece b => (TypeRef.read s piece).outcome = .ok b)
        (boundTexts line) p.bounds ∧
      (read s p.text).outcome = .ok p := by
  constructor
  · intro p
    exact ⟨colon_mem_text_iff p, canonical_of_read, read_text⟩
  · intro line p h
    have hbounds := (outcome_read_eq_ok_iff_boundTexts.mp h).2
    exact ⟨fun b hb => TypeRef.isNominal_iff.mp (p.nominal b hb), hbounds,
      read_text (canonical_of_read h)⟩

/-- A line with blanks in all places, one of them not in ASCII, and with a variable in a bound. -/
theorem read_inverts_shortForm_spaced :
    let s : Scope := ⟨["U"], by decide⟩
    let line := " T :\u2003util . List& Box < U >"
    let first : TypeRef := .reference ⟨"util.List"⟩
    let second : TypeRef := .parameterized ⟨"Box"⟩ (.one (.var "U"))
    ∃ p, (read s line).outcome = .ok p ∧ p.bounds = [first, second] ∧
      boundTexts line = ["util . List", "Box < U >"] ∧ p.text = "T: util.List & Box<U>" ∧
      (read s p.text).outcome = .ok p := by
  intro s line first second
  let p : TypeParameter := ⟨"T", [first, second], by decide, by
    simp [first, second, TypeRef.isNominal]⟩
  have hpieces : boundTexts line = ["util . List", "Box < U >"] := by decide +kernel
  have hread : (read s line).outcome = .ok p := by
    refine outcome_read_eq_ok_iff_boundTexts.mpr ⟨by decide +kernel, ?_⟩
    rw [hpieces]
    exact .cons (TypeRef.read_of_lex (by decide +kernel) (by decide +kernel))
      (.cons (TypeRef.read_of_lex (by decide +kernel) (by decide +kernel)) .nil)
  obtain ⟨-, -, hagain⟩ := (read_inverts_shortForm s).2 line p hread
  exact ⟨p, hread, rfl, hpieces, by decide +kernel, hagain⟩

/-- A type argument that is a variable in scope is read as the primitive type that has its name. -/
theorem keyword_argument_not_read :
    let s : Scope := ⟨["int"], by decide⟩
    let p (argument : TypeRef) : TypeParameter :=
      ⟨"T", [.parameterized ⟨"Box"⟩ (.one argument)], by decide, by simp [TypeRef.isNominal]⟩
    TypeRef.isFreeName "Box" = true ∧ "Box" ∉ s ∧ Text.isDottedName "int" = true ∧ "int" ∈ s ∧
      (read s (p (.var "int")).text).outcome = .ok (p (.primitive .int)) ∧
      (read s (p (.var "int")).text).outcome ≠ .ok (p (.var "int")) := by
  intro s p
  have htext : (p (.var "int")).text = (p (.primitive .int)).text := by decide +kernel
  have hread : (read s (p (.var "int")).text).outcome = .ok (p (.primitive .int)) := by
    rw [htext]
    exact read_text (by decide +kernel)
  refine ⟨by decide, by decide, by decide, by decide, hread, ?_⟩
  rw [hread]
  decide

end TypeParameter

/-! ### Parameters -/

namespace Parameter

/-- Blank lines are passed over. -/
theorem readLines_blank_cons {line : String} (h : Text.allBlank line = true)
    (lines : List String) : readLines s (line :: lines) = readLines s lines := by
  simp [readLines, h]

/-- Any other line is read before those behind it. -/
theorem outcome_readLines_solid_cons {line : String} (h : Text.allBlank line = false)
    (lines : List String) :
    (readLines s (line :: lines)).outcome =
      (read s line).outcome >>= fun p => (readLines s lines).outcome.map (p :: ·) := by
  simp [readLines, h]

/-- The lines are the texts in their order, with blank lines among them. -/
inductive Interspersed : List String → List String → Prop
  /-- There is nothing left. -/
  | nil : Interspersed [] []
  /-- The next line is the next text. -/
  | text {t : String} {texts lines : List String} : Interspersed texts lines →
      Interspersed (t :: texts) (t :: lines)
  /-- The next line is blank. -/
  | blank {line : String} {texts lines : List String} : Text.allBlank line = true →
      Interspersed texts lines → Interspersed texts (line :: lines)

/-- Lines are read as what the texts are, whatever blank lines are among them. -/
theorem readLines_of_interspersed {texts lines : List String} (h : Interspersed texts lines)
    {ps : List Parameter} (hsolid : ∀ t ∈ texts, Text.allBlank t = false)
    (hread : List.Forall₂ (fun t p => (read s t).outcome = .ok p) texts ps) :
    (readLines s lines).outcome = .ok ps := by
  induction h generalizing ps with
  | nil =>
    cases hread
    rfl
  | text _ ih =>
    obtain ⟨p, ps', hp, hps, rfl⟩ := List.forall₂_cons_left_iff.mp hread
    obtain ⟨hline, htexts⟩ := List.forall_mem_cons.mp hsolid
    rw [outcome_readLines_solid_cons hline, hp, ih htexts hps]
    rfl
  | blank hline _ ih =>
    rw [readLines_blank_cons hline]
    exact ih hsolid hread

/-- The line is the first of the lines that is neither blank nor read. -/
def IsFirstRejected (s : Scope) (lines : List String) (line : String) : Prop :=
  ∃ before after, lines = before ++ line :: after ∧
    (∀ l ∈ before, Text.allBlank l = true ∨ ∃ p, (read s l).outcome = .ok p) ∧
    Text.allBlank line = false ∧ ∃ e, (read s line).outcome = .error e

theorem IsFirstRejected.cons {l line : String} {lines : List String}
    (hl : Text.allBlank l = true ∨ ∃ p, (read s l).outcome = .ok p)
    (h : IsFirstRejected s lines line) : IsFirstRejected s (l :: lines) line := by
  obtain ⟨before, after, rfl, hbefore, hline⟩ := h
  exact ⟨l :: before, after, rfl, List.forall_mem_cons.mpr ⟨hl, hbefore⟩, hline⟩

/-- Lines fail as the first one that is neither blank nor read. -/
theorem outcome_readLines_eq_error_iff {lines : List String} {e : Error} :
    (readLines s lines).outcome = .error e ↔
      ∃ line, IsFirstRejected s lines line ∧ (read s line).outcome = .error e := by
  constructor
  · intro h
    induction lines with
    | nil => cases h
    | cons line lines ih =>
      cases hblank : Text.allBlank line with
      | true =>
        rw [readLines_blank_cons hblank] at h
        obtain ⟨rejected, hfirst, herror⟩ := ih h
        exact ⟨rejected, hfirst.cons (.inl hblank), herror⟩
      | false =>
        rw [outcome_readLines_solid_cons hblank] at h
        rcases bind_eq_error_iff.mp h with herror | ⟨p, hp, h⟩
        · exact ⟨line, ⟨[], lines, rfl, List.forall_mem_nil _, hblank, e, herror⟩, herror⟩
        · obtain ⟨rejected, hfirst, herror⟩ := ih (map_eq_error_iff.mp h)
          exact ⟨rejected, hfirst.cons (.inr ⟨p, hp⟩), herror⟩
  · intro h
    obtain ⟨line, ⟨before, after, rfl, hbefore, hsolid, -⟩, herror⟩ := h
    induction before with
    | nil =>
      rw [List.nil_append, outcome_readLines_solid_cons hsolid, herror]
      rfl
    | cons l before ih =>
      obtain ⟨hl, hbefore⟩ := List.forall_mem_cons.mp hbefore
      rw [List.cons_append]
      cases hblank : Text.allBlank l with
      | true => rw [readLines_blank_cons hblank, ih hbefore]
      | false =>
        obtain ⟨p, hp⟩ := hl.resolve_left (by simp [hblank])
        rw [outcome_readLines_solid_cons hblank, hp, ih hbefore]
        rfl

/-- Where all lines are read, each one is that is not blank. -/
theorem read_of_readLines {lines : List String} {ps : List Parameter}
    (h : (readLines s lines).outcome = .ok ps) {line : String} (hline : line ∈ lines)
    (hsolid : Text.allBlank line = false) : ∃ p, (read s line).outcome = .ok p := by
  have hmem : line ∈ solidLines lines := by simp [solidLines, hline, hsolid]
  exact exists_forall₂_iff.mp ⟨ps, outcome_readLines_eq_ok_iff.mp h⟩ line hmem

/-- **The short form of a parameter is read again exactly if its type is canonical,** also in lines
of short forms with blank lines among them. Any lines fail exactly if one is rejected that is not
blank, and they fail as the first of these does. -/
theorem readLines_inverts_shortForms (s : Scope) :
    (∀ p : Parameter, (read s p.text).outcome = .ok p ↔ Canonical s p.type) ∧
    (∀ (ps : List Parameter) (lines : List String), (∀ p ∈ ps, Canonical s p.type) →
      Interspersed (ps.map text) lines → (readLines s lines).outcome = .ok ps) ∧
    ∀ lines : List String,
      ((∃ e, (readLines s lines).outcome = .error e) ↔
        ∃ line ∈ lines, Text.allBlank line = false ∧ ∃ e, (read s line).outcome = .error e) ∧
      ∀ e, (readLines s lines).outcome = .error e ↔
        ∃ line, IsFirstRejected s lines line ∧ (read s line).outcome = .error e := by
  refine ⟨fun p => ⟨canonical_of_read, read_text⟩, fun ps lines hcanonical h => ?_,
    fun lines => ⟨⟨fun h => ?_, fun h => ?_⟩, fun e => outcome_readLines_eq_error_iff⟩⟩
  · exact readLines_of_interspersed h (solid_of_mem_map_text hcanonical)
      (forall₂_map_self_iff.mpr fun p hp => read_text (hcanonical p hp))
  · obtain ⟨e, h⟩ := h
    obtain ⟨line, ⟨before, after, rfl, -, hsolid, hrejected⟩, -⟩ :=
      outcome_readLines_eq_error_iff.mp h
    exact ⟨line, List.mem_append_right before (List.mem_cons_self ..), hsolid, hrejected⟩
  · obtain ⟨line, hline, hsolid, e, herror⟩ := h
    cases hlines : (readLines s lines).outcome with
    | error e' => exact ⟨e', rfl⟩
    | ok ps =>
      obtain ⟨p, hp⟩ := read_of_readLines hlines hline hsolid
      cases hp.symm.trans herror

/-- Two short forms with blank lines before, between and behind them. -/
theorem readLines_inverts_shortForms_put :
    let s : Scope := ⟨["K"], by decide⟩
    let key : Parameter := ⟨"key", .array (.var "K"), by decide⟩
    let all : Parameter :=
      ⟨"all", .parameterized ⟨"util.List"⟩ (.one (.bounded .upper (.var "K"))), by decide⟩
    let lines := ["", "key: K[]", " \t", "\u2003", "all: util.List<? extends K>", "\n"]
    (∀ p ∈ [key, all], Canonical s p.type) ∧ Interspersed ([key, all].map text) lines ∧
      (readLines s lines).outcome = .ok [key, all] := by
  intro s key all lines
  have hcanonical : ∀ p ∈ [key, all], Canonical s p.type := by decide +kernel
  have hkey : key.text = "key: K[]" := by decide +kernel
  have hall : all.text = "all: util.List<? extends K>" := by decide +kernel
  have hlines : Interspersed ([key, all].map text) lines := by
    simp only [List.map_cons, List.map_nil, hkey, hall]
    exact .blank (by decide) (.text (.blank (by decide) (.blank (by decide) (.text
      (.blank (by decide) .nil)))))
  exact ⟨hcanonical, hlines, (readLines_inverts_shortForms s).2.1 _ _ hcanonical hlines⟩

/-- A type that is a variable in scope is read as the primitive type that has its name. -/
theorem keyword_variable_not_read :
    let s : Scope := ⟨["int"], by decide⟩
    let p (type : TypeRef) : Parameter := ⟨"a", type, by decide⟩
    Text.isDottedName "int" = true ∧ "int" ∈ s ∧
      (read s (p (.var "int")).text).outcome = .ok (p (.primitive .int)) ∧
      (read s (p (.var "int")).text).outcome ≠ .ok (p (.var "int")) := by
  intro s p
  have htext : (p (.var "int")).text = (p (.primitive .int)).text := by decide +kernel
  have hread : (read s (p (.var "int")).text).outcome = .ok (p (.primitive .int)) := by
    rw [htext]
    exact read_text (by decide +kernel)
  refine ⟨by decide, by decide, hread, ?_⟩
  rw [hread]
  decide

end Parameter

end MemberEncoding
