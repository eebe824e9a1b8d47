import MemberEncoding.Catalog.Reader
import MemberEncoding.Proofs.Descriptor.Acceptance
import MemberEncoding.Proofs.Pool

/-!
# MemberEncoding.Proofs.Catalog.Loading

**A catalog is read entry by entry, and as a whole or not at all** (`read_decides_entries`). Each
entry is read as it is with a pool of its own (`readAlone`), since the pool that the entries share
stays faithful. The entries before the first one that is not read give their notices
(`readEntries_append`), and the error is about that one (`Blames`).

An error calls an entry by the datum under its name. There is a datum without a text, a whole number
of too many digits, and the error is then about the number and says neither which entry it is nor
what is wrong with it (`long_name_not_blamed`).
-/

namespace MemberEncoding.Catalog

open Descriptor (wholePower toText?_wholePower)

variable {path : String} {ambient : Scope}

/-! ### Entries on their own -/

/-- Reads a descriptor with a pool of its own. -/
def readAlone (ambient : Scope) (d : Descriptor) : Except Error Element :=
  (Pool.empty.absorb Pool.internElement (Descriptor.read ambient d)).2

theorem readAlone_eq (ambient : Scope) (d : Descriptor) :
    readAlone ambient d = (Descriptor.read ambient d).outcome := by
  rw [readAlone, Pool.faithful_empty.absorb_eq fun _ hq => hq.internElement_eq]

/-- Reading with a pool that is in use already gives the same. -/
theorem absorb_read {pool : Pool} (h : pool.Faithful) (d : Descriptor) :
    pool.absorb Pool.internElement (Descriptor.read ambient d)
      = (pool.recordAll (Descriptor.read ambient d).mentions, readAlone ambient d) := by
  rw [readAlone_eq, h.absorb_eq fun _ hq => hq.internElement_eq]

/-- The entry is a mapping that is read as the element. -/
def IsReadAs (ambient : Scope) (entry : Value) (e : Element) : Prop :=
  ∃ d, entry = .map d ∧ readAlone ambient d = .ok e

/-- A notice for each element that has several roles. -/
def warnings (es : List Element) : List Notice :=
  (es.filter fun e => decide (1 < e.roleNames.length)).map fun e => .severalRoles e.name e.roleNames

theorem warnings_cons (e : Element) (es : List Element) :
    warnings (e :: es) = e.notices ++ warnings es := by
  unfold warnings Element.notices
  by_cases h : 1 < e.roleNames.length
  · simp [h]
  · simp [h]

/-! ### What an error says -/

/-- How an entry is called: by its number if it has no name, else by the text of its name, whatever
datum that is. -/
inductive Calls (index : Nat) (d : Descriptor) : String → Prop
  | number : d.field? .name = none → Calls index d ("#" ++ toString index)
  | name {v text} : d.field? .name = some v → v.toText? = some text → Calls index d text

/-- The name of the entry has no text. -/
def HasNoText (d : Descriptor) : Prop := ∃ v, d.field? .name = some v ∧ v.toText? = none

theorem label_cases (index : Nat) (d : Descriptor) :
    (∃ text, label index d = .ok text ∧ Calls index d text) ∨
    label index d = .error .numberTooLong ∧ HasNoText d := by
  unfold label
  cases hname : d.field? .name with
  | none => exact .inl ⟨_, rfl, .number hname⟩
  | some v =>
    dsimp only
    unfold Descriptor.textOf
    cases htext : v.toText? with
    | none => exact .inr ⟨rfl, v, hname, htext⟩
    | some text => exact .inl ⟨text, rfl, .name hname htext⟩

/-- What the error for an entry says, by the number of the entry. -/
inductive Blames (path : String) (ambient : Scope) (index : Nat) : Value → String → Prop
  /-- The entry is no mapping. -/
  | notAMapping {entry} : (∀ d, entry ≠ .map d) →
    Blames path ambient index entry
      (path ++ ": element #" ++ toString index ++ " must be a mapping")
  /-- The entry is called something, and reading it by itself fails for the cause that is told. -/
  | invalid {d text cause} : Calls index d text → readAlone ambient d = .error cause →
    cause.IsDescriptorError → Blames path ambient index (.map d)
      (path ++ ": invalid element " ++ text ++ ": " ++ cause.message)
  /-- Reading the entry by itself fails, and its name has no text. -/
  | nameless {d cause} : HasNoText d → readAlone ambient d = .error cause →
    Blames path ambient index (.map d) Error.numberTooLong.message

/-- An entry without a name is blamed by its number. -/
theorem Blames.message_eq {index : Nat} {d : Descriptor} {cause : Error} {message : String}
    (h : Blames path ambient index (.map d) message) (hname : d.field? .name = none)
    (hread : readAlone ambient d = .error cause) :
    message = path ++ ": invalid element " ++ ("#" ++ toString index) ++ ": " ++ cause.message := by
  cases h with
  | notAMapping hmap => exact absurd rfl (hmap d)
  | invalid hcalls hread' _ =>
    rw [hread] at hread'
    cases hread'
    cases hcalls with
    | number _ => rfl
    | name hsome _ =>
      rw [hname] at hsome
      cases hsome
  | nameless hnone _ =>
    obtain ⟨v, hsome, -⟩ := hnone
    rw [hname] at hsome
    cases hsome

/-- The error for an entry that cannot be read says so. -/
theorem blames_entryError (path : String) (index : Nat) {d : Descriptor} {cause : Error}
    (h : readAlone ambient d = .error cause) :
    (entryError path index d cause).category = .invalid ∧
      Blames path ambient index (.map d) (entryError path index d cause).message := by
  have hkind : cause.IsDescriptorError :=
    Descriptor.isDescriptorError_of_read_eq_error (readAlone_eq ambient d ▸ h)
  unfold entryError
  rcases label_cases index d with ⟨text, htext, hcalls⟩ | ⟨hnone, hname⟩
  · rw [htext]
    exact ⟨rfl, .invalid hcalls h hkind⟩
  · rw [hnone]
    exact ⟨rfl, .nameless hname h⟩

/-! ### All entries -/

/-- What comes of entries that follow those of the elements. -/
def Outcome.behind (o : Outcome) (es : List Element) : Outcome :=
  ⟨warnings es ++ o.notices, o.elements.map (es ++ ·)⟩

@[simp] theorem Outcome.behind_nil (o : Outcome) : o.behind [] = o := by
  obtain ⟨notices, elements⟩ := o
  cases elements <;> rfl

theorem Outcome.behind_cons (o : Outcome) (e : Element) (es : List Element) :
    o.behind (e :: es) = ⟨e.notices ++ (o.behind es).notices,
      (o.behind es).elements.map (e :: ·)⟩ := by
  obtain ⟨notices, elements⟩ := o
  cases elements <;> simp [behind, warnings_cons, Except.map]

/-- Entries that are read go before those after them, which find the pool faithful as well. -/
theorem readEntries_append (path : String) {before : List Value} {es : List Element}
    (hread : List.Forall₂ (IsReadAs ambient) before es) {pool : Pool} (hpool : pool.Faithful)
    (index : Nat) (after : List Value) :
    ∃ pool' : Pool, pool'.Faithful ∧ readEntries path ambient pool index (before ++ after) =
      (readEntries path ambient pool' (index + before.length) after).behind es := by
  induction hread generalizing pool index with
  | nil =>
    refine ⟨pool, hpool, ?_⟩
    rw [Outcome.behind_nil]
    rfl
  | @cons entry e before es hentry _ ih =>
    obtain ⟨d, rfl, hd⟩ := hentry
    obtain ⟨pool', hpool', hafter⟩ := ih (hpool.recordAll _) (index + 1)
    refine ⟨pool', hpool', ?_⟩
    rw [List.cons_append, readEntries, absorb_read hpool, hd]
    dsimp only
    rw [hafter, Outcome.behind_cons, List.length_cons, Nat.add_right_comm, Nat.add_assoc]

/-- Nothing goes on behind an entry that is not read, and the error is about it. -/
theorem readEntries_cons_of_unread (path : String) {pool : Pool} (hpool : pool.Faithful)
    {entry : Value} (hunread : ∀ e, ¬ IsReadAs ambient entry e) (index : Nat) (after : List Value) :
    ∃ err, readEntries path ambient pool index (entry :: after) = ⟨[], .error err⟩ ∧
      err.category = .invalid ∧ Blames path ambient index entry err.message := by
  cases entry with
  | map d =>
    cases hd : readAlone ambient d with
    | error cause =>
      have hblames := blames_entryError path index hd
      refine ⟨entryError path index d cause, ?_, hblames⟩
      rw [readEntries, absorb_read hpool, hd]
    | ok e => exact absurd ⟨d, rfl, hd⟩ (hunread e)
  | _ =>
    refine ⟨.notAMapping path index, rfl, rfl, .notAMapping ?_⟩
    intro d h
    cases h

/-- The document is a mapping that has the entries as its elements. -/
def Lists (document : Value) (entries : List Value) : Prop :=
  ∃ d, document = .map d ∧ entry? d "elements" = some (.list entries)

theorem entries?_eq_some_iff {document : Value} {entries : List Value} :
    entries? document = some entries ↔ Lists document entries := by
  unfold entries? Lists
  constructor
  · intro h
    split at h
    · rename_i d
      split at h
      · rename_i entries' hentries
        cases h
        exact ⟨d, rfl, hentries⟩
      · cases h
    · cases h
  · rintro ⟨d, rfl, hentries⟩
    simp only [hentries]

theorem Lists.eq {document : Value} {entries entries' : List Value} (h : Lists document entries)
    (h' : Lists document entries') : entries = entries' :=
  Option.some.inj ((entries?_eq_some_iff.mpr h).symm.trans (entries?_eq_some_iff.mpr h'))

/-- A catalog all of whose entries are read. -/
theorem read_of_read (path : String) {document : Value} {entries : List Value} {es : List Element}
    (hlist : Lists document entries) (hread : List.Forall₂ (IsReadAs ambient) entries es) :
    read path ambient document = ⟨warnings es ++ [.loaded es.length path], .ok es⟩ := by
  obtain ⟨pool', -, hentries⟩ :=
    readEntries_append path hread Pool.faithful_empty 0 []
  rw [List.append_nil] at hentries
  simp only [read, entries?_eq_some_iff.mpr hlist, hentries]
  simp [Outcome.behind, readEntries, Except.map]

/-- A catalog with an entry that is not read. -/
theorem read_of_unread (path : String) {document : Value} {before after : List Value}
    {entry : Value} {es : List Element} (hlist : Lists document (before ++ entry :: after))
    (hread : List.Forall₂ (IsReadAs ambient) before es)
    (hunread : ∀ e, ¬ IsReadAs ambient entry e) :
    ∃ err, read path ambient document = ⟨warnings es, .error err⟩ ∧ err.category = .invalid ∧
      Blames path ambient before.length entry err.message := by
  obtain ⟨pool', hpool', hentries⟩ :=
    readEntries_append path hread Pool.faithful_empty 0 (entry :: after)
  obtain ⟨err, herr, hblames⟩ :=
    readEntries_cons_of_unread path hpool' hunread (0 + before.length) after
  rw [herr] at hentries
  rw [Nat.zero_add] at hblames
  refine ⟨err, ?_, hblames⟩
  simp only [read, entries?_eq_some_iff.mpr hlist, hentries]
  simp [Outcome.behind, Except.map]

/-- A document without a list of elements. -/
theorem read_of_not_lists (path : String) {document : Value}
    (h : ∀ entries, ¬ Lists document entries) :
    read path ambient document = ⟨[], .error (.noElementList path)⟩ := by
  unfold read
  cases hentries : entries? document with
  | none => rfl
  | some entries => exact absurd (entries?_eq_some_iff.mp hentries) (h entries)

/-- The error is about the first entry that is not read. -/
def BlamesFirst (path : String) (ambient : Scope) (entries : List Value) (notices : List Notice)
    (message : String) : Prop :=
  ∃ before entry after es, entries = before ++ entry :: after ∧
    List.Forall₂ (IsReadAs ambient) before es ∧ (∀ e, ¬ IsReadAs ambient entry e) ∧
    notices = warnings es ∧ Blames path ambient before.length entry message

/-- A document is read as a whole, or not at all. -/
theorem read_cases (path : String) (ambient : Scope) (document : Value) :
    (∃ entries es, Lists document entries ∧ List.Forall₂ (IsReadAs ambient) entries es ∧
      read path ambient document = ⟨warnings es ++ [.loaded es.length path], .ok es⟩) ∨
    ∃ notices err, read path ambient document = ⟨notices, .error err⟩ ∧ err.category = .invalid ∧
      ∀ entries, Lists document entries →
        BlamesFirst path ambient entries notices err.message := by
  by_cases hlist : ∃ entries, Lists document entries
  · obtain ⟨entries, hlist⟩ := hlist
    rcases exists_forall₂_or_split (IsReadAs ambient) entries with
      ⟨es, hread⟩ | ⟨before, entry, after, es, rfl, hread, hunread⟩
    · exact .inl ⟨entries, es, hlist, hread, read_of_read path hlist hread⟩
    · obtain ⟨err, herr, hkind, hblames⟩ := read_of_unread path hlist hread hunread
      refine .inr ⟨_, err, herr, hkind, fun entries hentries => ?_⟩
      rw [hentries.eq hlist]
      exact ⟨before, entry, after, es, rfl, hread, hunread, rfl, hblames⟩
  · have hnone : ∀ entries, ¬ Lists document entries := fun entries h => hlist ⟨entries, h⟩
    exact .inr ⟨_, _, read_of_not_lists path hnone, rfl, fun entries h => absurd h (hnone entries)⟩

/-- **A catalog is read just when each of its entries is, by itself;** then there is one element for
each entry, in their order, and a notice for each element with several roles goes before the count
of them all. Otherwise the error is about the first entry that is not read, if there is a list. -/
theorem read_decides_entries (path : String) (ambient : Scope) (document : Value) :
    let outcome := read path ambient document
    (∀ es, outcome.elements = .ok es ↔
      ∃ entries, Lists document entries ∧ List.Forall₂ (IsReadAs ambient) entries es) ∧
    (∀ es, outcome.elements = .ok es →
      outcome.notices = warnings es ++ [.loaded es.length path]) ∧
    ∀ err, outcome.elements = .error err → err.category = .invalid ∧
      ∀ entries, Lists document entries →
        BlamesFirst path ambient entries outcome.notices err.message := by
  intro outcome
  have hread : ∀ es, (∃ entries, Lists document entries ∧
      List.Forall₂ (IsReadAs ambient) entries es) → outcome.elements = .ok es := by
    rintro es ⟨entries, hlist, hentries⟩
    exact congrArg Outcome.elements (read_of_read path hlist hentries)
  rcases read_cases path ambient document with
    ⟨entries, es, hlist, hentries, heq⟩ | ⟨notices, err, heq, hkind, hblames⟩
  · have houtcome : outcome = ⟨_, .ok es⟩ := heq
    rw [houtcome] at hread ⊢
    refine ⟨fun es' => ⟨?_, hread es'⟩, ?_, ?_⟩
    · rintro ⟨⟩
      exact ⟨entries, hlist, hentries⟩
    · rintro es' ⟨⟩
      rfl
    · rintro err ⟨⟩
  · have houtcome : outcome = ⟨notices, .error err⟩ := heq
    rw [houtcome] at hread ⊢
    refine ⟨fun es => ⟨?_, hread es⟩, ?_, ?_⟩
    · rintro ⟨⟩
    · rintro es ⟨⟩
    · rintro err' ⟨⟩
      exact ⟨hkind, hblames⟩

/-- One entry that is read and has two roles, and the same entry before one without a name. -/
theorem read_copy_and_nameless :
    let copy : Descriptor := [(.text "name", .text "x"), (.text "type", .text "Foo"),
      (.text "tags", .texts ["copy", "equals"])]
    let unnamed : Descriptor := [(.text "type", .text "int")]
    let catalog (entries : List Value) : Value := .map [(.text "elements", .list entries)]
    (∃ e, (read "elements.yaml" .empty (catalog [.map copy])).elements = .ok [e] ∧
      (read "elements.yaml" .empty (catalog [.map copy])).notices =
        [.severalRoles "x" ["is_equals", "is_copy"], .loaded 1 "elements.yaml"]) ∧
    ∃ err, (read "elements.yaml" .empty (catalog [.map copy, .map unnamed])).elements =
        .error err ∧
      err.message =
        "elements.yaml: invalid element #1: Element descriptor requires a non-empty 'name'" := by
  intro copy unnamed catalog
  let e : Element := ⟨⟨"x", .reference ⟨"Foo"⟩, .identity, [], [], [], .ofList [.copy, .equals],
    .empty, []⟩, by decide, by decide, by decide⟩
  have hcopy : IsReadAs .empty (.map copy) e := by
    refine ⟨copy, rfl, ?_⟩
    have hdescribes : Descriptor.Describes .empty copy e := {
      keys := by decide +kernel
      name := rfl
      ambient := rfl
      distinct := by decide
      typeParams := ⟨[], .absent, .nil⟩
      type := ⟨_, "Foo", rfl, rfl, TypeRef.read_of_lex (by decide +kernel) (by decide +kernel)⟩
      naming := ⟨"*", .absent, by decide +kernel⟩
      params := ⟨[], .absent, .nil⟩
      code := ⟨"", .absent, Body.termsOf_nil⟩
      thrown := ⟨[], .absent, .nil⟩
      tags := ⟨["copy", "equals"], .list _, by decide +kernel⟩ }
    exact (readAlone_eq .empty copy).trans (Descriptor.outcome_read_eq_ok_iff.mpr hdescribes)
  have hunnamed : readAlone .empty unnamed = .error .nameRequired := by
    rw [readAlone_eq]
    rfl
  have hunread : ∀ e, ¬ IsReadAs .empty (.map unnamed) e := by
    rintro e ⟨d, hd, hread⟩
    cases hd
    rw [hunnamed] at hread
    cases hread
  have hlist : ∀ entries, Lists (catalog entries) entries := fun entries => ⟨_, rfl, rfl⟩
  have hwarnings : warnings [e] = [.severalRoles "x" ["is_equals", "is_copy"]] := by decide +kernel
  obtain ⟨hread, hnotices, -⟩ := read_decides_entries "elements.yaml" .empty (catalog [.map copy])
  have hone := (hread [e]).mpr ⟨_, hlist _, .cons hcopy .nil⟩
  have htold := hnotices [e] hone
  rw [hwarnings] at htold
  refine ⟨⟨e, hone, htold⟩, ?_⟩
  obtain ⟨hread', -, herror⟩ :=
    read_decides_entries "elements.yaml" .empty (catalog [.map copy, .map unnamed])
  cases hboth : (read "elements.yaml" .empty (catalog [.map copy, .map unnamed])).elements with
  | ok es =>
    obtain ⟨entries, hentries, hall⟩ := (hread' es).mp hboth
    rw [hentries.eq (hlist _)] at hall
    cases hall with
    | cons _ hrest =>
      cases hrest with
      | cons hsecond _ => exact absurd hsecond (hunread _)
  | error err =>
    obtain ⟨before, entry, after, es, heq, -, hnone, -, hblames⟩ :=
      (herror err hboth).2 _ (hlist _)
    refine ⟨err, rfl, ?_⟩
    -- The entry that is blamed is not the first.
    match before with
    | [] =>
      cases heq
      exact absurd hcopy (hnone e)
    | [_] =>
      cases heq
      exact (hblames.message_eq rfl hunnamed).trans (by decide +kernel)
    | _ :: _ :: _ => simp at heq

/-- An entry whose name is a whole number of too many digits, by itself, lacks a name, and the error
does not tell it. -/
theorem long_name_not_blamed :
    let d : Descriptor := [(.text "name", wholePower digitLimit)]
    ∃ err cause, (read "elements.yaml" .empty (.map [(.text "elements", .list [.map d])])).elements
        = .error err ∧
      readAlone .empty d = .error cause ∧
      ∀ before after, err.message ≠ before ++ cause.message ++ after := by
  intro d
  have halone : readAlone .empty d = .error .nameRequired := by
    rw [readAlone_eq]
    rfl
  refine ⟨.numberTooLong, .nameRequired, ?_, halone, fun before after h => ?_⟩
  · have hlabel : entryError "elements.yaml" 0 d .nameRequired = .numberTooLong := by
      have hname : d.field? .name = some (wholePower digitLimit) := rfl
      simp only [entryError, label, hname, Descriptor.textOf, toText?_wholePower]
    have hentry : readEntries "elements.yaml" .empty .empty 0 [.map d]
        = ⟨[], .error .numberTooLong⟩ := by
      rw [readEntries, absorb_read Pool.faithful_empty, halone, ← hlabel]
    have hlist : entries? (.map [(.text "elements", .list [.map d])]) = some [.map d] := rfl
    simp only [read, hlist, hentry]
  · -- What the error does not tell has quotes, and the error has none.
    have hquote : Char.ofNat 39 ∈ Error.nameRequired.message.toList := by decide +kernel
    have hnone : Char.ofNat 39 ∉ Error.numberTooLong.message.toList := by decide +kernel
    rw [h, String.toList_append, String.toList_append] at hnone
    exact hnone (List.mem_append_left _ (List.mem_append_right _ hquote))

end MemberEncoding.Catalog
