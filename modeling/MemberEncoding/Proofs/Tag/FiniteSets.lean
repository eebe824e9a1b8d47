import Mathlib.Data.Finset.Card
import MemberEncoding.Proofs.Tag.Names
import MemberEncoding.Proofs.Text.Ascii

/-!
# MemberEncoding.Proofs.Tag.FiniteSets

**Tag sets are finite sets of tags** (`run_represents`). What a set answers about its members, their
order and their number is what the mathematical set `members` has (`represents_members`), and each
step does to it what it does to the members (`members_step`), so that a run of steps may be followed
on mathematical sets.

The word of bits is left behind at two places: its bits are counted one by one (`countBits_eq`), and
a number is accepted as bits exactly if it is such a word (`ofBits_eq_ok_iff`).
-/

namespace MemberEncoding

open Text (isBlank isNamePart isTight_of_forall trimChars_pad upper_of_lt
  isBlank_eq_false_of_isNamePart)

namespace TagSet

/-! ### Members -/

/-- The members, as a mathematical set. -/
def members (s : TagSet) : Finset Tag := Tag.all.toFinset.filter (· ∈ s)

variable {s : TagSet}

@[simp] theorem mem_members {t : Tag} : t ∈ s.members ↔ t ∈ s := by
  simp [members, Tag.mem_all]

@[simp] theorem members_empty : empty.members = ∅ := by
  ext t
  simp

@[simp] theorem members_ofList (ts : List Tag) : (ofList ts).members = ts.toFinset := by
  ext t
  simp

@[simp] theorem members_union (s u : TagSet) : (s.union u).members = s.members ∪ u.members := by
  ext t
  simp

@[simp] theorem toFinset_toList : s.toList.toFinset = s.members := by
  ext t
  simp

/-! ### Order and number -/

theorem pairwise_all : Tag.all.Pairwise fun t u => t.ordinal < u.ordinal := by decide

theorem pairwise_toList (s : TagSet) : s.toList.Pairwise fun t u => t.ordinal < u.ordinal :=
  pairwise_all.filter _

theorem nodup_toList (s : TagSet) : s.toList.Nodup := Tag.nodup_all.filter _

theorem length_toList (s : TagSet) : s.toList.length = s.members.card := by
  rw [← toFinset_toList, List.toFinset_card_of_nodup s.nodup_toList]

/-- The bits of a number are counted one by one. -/
theorem countBits_eq {n k : Nat} (h : n < 2 ^ k) :
    countBits n = (List.range k).countP fun i => n.testBit i := by
  induction k generalizing n with
  | zero =>
    obtain rfl : n = 0 := by simpa using h
    rw [countBits]
    rfl
  | succ k ih =>
    have hhalf : n / 2 < 2 ^ k := by omega
    have hbits : (List.range k).countP ((fun i => n.testBit i) ∘ Nat.succ)
        = countBits (n / 2) := by
      rw [ih hhalf]
      refine List.countP_congr fun i _ => ?_
      simp only [Function.comp_apply, Nat.testBit_succ]
    rw [List.range_succ_eq_map, List.countP_cons, List.countP_map, hbits, Nat.testBit_zero]
    by_cases hn : n = 0
    · subst hn
      simp [countBits]
    · rw [countBits, if_neg hn]
      rcases Nat.mod_two_eq_zero_or_one n with hmod | hmod <;> simp [hmod, Nat.add_comm]

theorem map_ordinal_all : Tag.all.map (fun t => t.ordinal.val) = List.range 16 := by decide

theorem size_eq (s : TagSet) : s.size = s.members.card := by
  calc
    s.size = (List.range 16).countP fun i => s.bits.toNat.testBit i := countBits_eq s.bits.isLt
    _ = Tag.all.countP s.contains := by
      rw [← map_ordinal_all, List.countP_map]
      rfl
    _ = s.toList.length := List.countP_eq_length_filter ..
    _ = s.members.card := s.length_toList

theorem isInhabited_iff : s.isInhabited = true ↔ s.members.Nonempty := by
  have hempty : s.bits = 0 ↔ s.members = ∅ := by
    rw [← members_empty]
    constructor
    · intro h
      exact congrArg members (show s = empty by cases s; cases h; rfl)
    · intro h
      have hs : s = empty := ext_mem fun t => by rw [← mem_members, h, mem_members]
      rw [hs]
      rfl
  rw [Finset.nonempty_iff_ne_empty, isInhabited, bne_iff_ne, Ne, hempty]

/-- All that a set answers is what the mathematical set has. -/
structure Represents (s : TagSet) (S : Finset Tag) : Prop where
  /-- Nothing but tags are members. -/
  holds : ∀ c, s.holds c = true ↔ ∃ t ∈ S, c = .tag t
  /-- All members are listed, and nothing else. -/
  listed : ∀ t, t ∈ s.toList ↔ t ∈ S
  /-- They are listed once each, with rising ordinals. -/
  rising : s.toList.Pairwise fun t u => t.ordinal < u.ordinal
  /-- As many are listed as there are. -/
  length : s.toList.length = S.card
  /-- So many there are. -/
  size : s.size = S.card
  /-- The set is true if there are any. -/
  inhabited : s.isInhabited = true ↔ S.Nonempty

theorem represents_members (s : TagSet) : s.Represents s.members where
  holds c := by
    cases c with
    | tag t =>
      show t ∈ s ↔ _
      simp
    | other v => simp [holds]
  listed t := by simp
  rising := s.pairwise_toList
  length := s.length_toList
  size := s.size_eq
  inhabited := isInhabited_iff

/-! ### Bits -/

theorem alphabet_eq : alphabet = 2 ^ 16 - 1 := by decide

/-- A number has no stray bits exactly if it is a word of sixteen bits. -/
theorem strayBits_eq_zero_iff {bits : Int} : strayBits bits = 0 ↔ 0 ≤ bits ∧ bits < 2 ^ 16 := by
  cases bits with
  | negSucc n =>
    refine iff_of_false (fun h => ?_) (by omega)
    cases h
  | ofNat n =>
    have hstray : n ^^^ (n &&& alphabet) = 0 ↔ n < 2 ^ 16 := by
      rw [Nat.xor_eq_zero_iff, alphabet_eq, Nat.and_two_pow_sub_one_eq_mod, eq_comm,
        Nat.mod_eq_iff_lt (by decide)]
    have hcast : strayBits (.ofNat n) = 0 ↔ n ^^^ (n &&& alphabet) = 0 := Int.ofNat_eq_zero
    rw [hcast, hstray]
    simp only [Int.ofNat_eq_natCast]
    omega

theorem ofBits_eq_ok_iff {bits : Int} : ofBits bits = .ok s ↔ (s.bits.toNat : Int) = bits := by
  have hlt := s.bits.isLt
  by_cases h : strayBits bits = 0
  · have hbounds := strayBits_eq_zero_iff.mp h
    rw [ofBits, if_pos h, Except.ok.injEq]
    constructor
    · rintro rfl
      simp only [BitVec.toNat_ofInt]
      omega
    · rintro rfl
      simp
  · rw [ofBits, if_neg h]
    refine iff_of_false (fun h => by cases h) fun hs => h (strayBits_eq_zero_iff.mpr ?_)
    omega

theorem exists_ofBits_iff {bits : Int} : (∃ s, ofBits bits = .ok s) ↔ 0 ≤ bits ∧ bits < 2 ^ 16 := by
  rw [← strayBits_eq_zero_iff]
  by_cases h : strayBits bits = 0 <;> simp [ofBits, h]

/-! ### What is offered -/

/-- What is offered makes a set exactly if it is nothing but tags, and the set is all of them. -/
theorem ofCandidates_eq_ok_iff_mem {cs : List TagCandidate} :
    ofCandidates cs = .ok s ↔ (∀ v, .other v ∉ cs) ∧ ∀ t, t ∈ s ↔ .tag t ∈ cs := by
  constructor
  · intro h
    obtain ⟨ts, rfl, rfl⟩ := ofCandidates_eq_ok_iff.mp h
    simp
  · rintro ⟨htags, hmem⟩
    cases h : ofCandidates cs with
    | error e =>
      obtain ⟨v, hv⟩ := exists_ofCandidates_eq_error_iff.mp ⟨e, h⟩
      exact absurd hv (htags v)
    | ok u =>
      obtain ⟨ts, rfl, rfl⟩ := ofCandidates_eq_ok_iff.mp h
      refine congrArg Except.ok (ext_mem fun t => ?_)
      simp [hmem t]

/-- What is offered is refused because of the first thing that is no tag. -/
theorem ofCandidates_eq_error_iff {cs : List TagCandidate} {e : Error} :
    ofCandidates cs = .error e ↔
      ∃ (ts : List Tag) (v : Value) (after : List TagCandidate),
        cs = ts.map .tag ++ .other v :: after ∧ e = .notATag v.kindName := by
  rw [ofCandidates, map_eq_error_iff]
  induction cs with
  | nil =>
    refine iff_of_false (fun h => by cases h) ?_
    rintro ⟨ts, v, after, h, -⟩
    simp at h
  | cons c cs ih =>
    rw [List.mapM_cons]
    cases c with
    | other v =>
      constructor
      · intro h
        cases h
        exact ⟨[], v, cs, rfl, rfl⟩
      · rintro ⟨ts, w, after, h, rfl⟩
        cases ts with
        | nil =>
          cases h
          rfl
        | cons t ts => cases h
    | tag t =>
      have hstep : (TagCandidate.accept (.tag t) >>= fun t => cs.mapM TagCandidate.accept >>=
          fun ts => pure (t :: ts)) = .error e ↔ cs.mapM TagCandidate.accept = .error e := by
        simp only [TagCandidate.accept, bind_pure_comp]
        exact map_eq_error_iff
      rw [hstep, ih]
      constructor
      · rintro ⟨ts, v, after, rfl, rfl⟩
        exact ⟨t :: ts, v, after, rfl, rfl⟩
      · rintro ⟨ts, v, after, h, rfl⟩
        cases ts with
        | nil => cases h
        | cons u ts =>
          cases h
          exact ⟨ts, v, after, rfl, rfl⟩

/-- What is offered in two parts makes the set of the first part with the second added. -/
theorem ofCandidates_append (cs ds : List TagCandidate) :
    ofCandidates (cs ++ ds) = ofCandidates cs >>= fun s => s.addCandidates ds := by
  simp only [addCandidates, ofCandidates, List.mapM_append]
  cases cs.mapM TagCandidate.accept with
  | error e => rfl
  | ok ts =>
    cases ds.mapM TagCandidate.accept with
    | error e => rfl
    | ok us =>
      refine congrArg Except.ok (ext_mem fun t => ?_)
      simp

/-! ### Names in any letter case -/

/-- The text `n` is `m` but for the case of ASCII letters and for blanks around it. -/
def IsVariant (n m : String) : Prop :=
  ∃ before core after, n.toList = before ++ core ++ after ∧
    (∀ c ∈ before ++ after, isBlank c = true) ∧
    List.Forall₂ (fun c d => c.toLower = d.toLower) core m.toList

/-- Names are capital letters and underscores. -/
theorem of_mem_name (t : Tag) : ∀ d ∈ t.name.toList, d.toUpper = d ∧ isNamePart d = true := by
  have hall : (t.name.toList.all fun d => d.toUpper == d && isNamePart d) = true := by
    cases t <;> decide
  simpa using hall

theorem name_toList_ne_nil (t : Tag) : t.name.toList ≠ [] := by
  cases t <;> decide

theorem ofName?_name (t : Tag) : Tag.ofName? t.name.toList = some t := by
  cases t <;> decide

/-- Letters that are capital but for their case are capital in upper case. -/
theorem flatMap_upper_of_toLower_eq {cs ds : List Char}
    (hcase : List.Forall₂ (fun c d => c.toLower = d.toLower) cs ds)
    (hds : ∀ d ∈ ds, d.toUpper = d ∧ isNamePart d = true) :
    cs.flatMap Text.upper = ds ∧ ∀ c ∈ cs, isNamePart c = true := by
  induction hcase with
  | nil => simp
  | @cons c d cs ds hcd _ ih =>
    obtain ⟨hd, hpart⟩ := hds d (List.mem_cons_self ..)
    obtain ⟨hcs, hparts⟩ := ih fun d' hd' => hds d' (List.mem_cons_of_mem d hd')
    have hupper : c.toUpper = d := by
      rw [← Char.toUpper_toLower_eq_toUpper, hcd, Char.toUpper_toLower_eq_toUpper, hd]
    have hc : isNamePart c = true := Text.isNamePart_of_toUpper (by rw [hupper, hpart])
    refine ⟨?_, by simpa [hc] using hparts⟩
    rw [List.flatMap_cons, upper_of_lt (Text.toNat_lt_of_isNamePart hc), hupper, hcs]
    rfl

/-- A tag is read from its name, however it is written. -/
theorem ofText_of_isVariant {n : String} {t : Tag} (h : IsVariant n t.name) :
    Tag.ofText n = .ok t := by
  obtain ⟨before, core, after, hn, hblank, hcase⟩ := h
  obtain ⟨hupper, hparts⟩ := flatMap_upper_of_toLower_eq hcase (of_mem_name t)
  have hne : core ≠ [] := by
    rintro rfl
    exact name_toList_ne_nil t hupper.symm
  have htight := isTight_of_forall hne fun c hc =>
    isBlank_eq_false_of_isNamePart (hparts c hc)
  have hfound : Tag.ofText? n = some t := by
    rw [Tag.ofText?, hn, trimChars_pad htight before after
      (fun c hc => hblank c (List.mem_append_left _ hc))
      fun c hc => hblank c (List.mem_append_right _ hc), hupper, ofName?_name]
  rw [Tag.ofText, hfound]

/-- A set is read from the names of its members, however they are written. -/
theorem ofTexts_of_isVariant {ns : List String} (h : List.Forall₂ IsVariant ns s.names) :
    ofTexts ns = .ok s := by
  rw [names, List.forall₂_map_right_iff] at h
  exact ofTexts_eq_ok_iff.mpr ⟨s.toList, h.imp fun _ _ => ofText_of_isVariant, ofList_toList s⟩

/-! ### Steps -/

/-- The tags offered, as a mathematical set, if nothing else is offered. -/
def offered? (cs : List TagCandidate) : Option (Finset Tag) :=
  (cs.mapM TagCandidate.tag?).map List.toFinset

namespace Step

/-- What the step makes of a mathematical set, unless it fails. -/
def onMembers? (S : Finset Tag) : Step → Option (Finset Tag)
  | .of cs => offered? cs
  | .named names => (names.mapM Tag.ofText?).map List.toFinset
  | .source (.set u) => some u.members
  | .source (.members cs) => offered? cs
  | .add cs => (offered? cs).map (S ∪ ·)

/-- What the step leaves of a mathematical set. -/
def onMembers (S : Finset Tag) (st : Step) : Finset Tag := (st.onMembers? S).getD S

/-- What the step is offered as tags. -/
def candidates? : Step → Option (List TagCandidate)
  | .of cs => some cs
  | .named _ => none
  | .source (.set _) => none
  | .source (.members cs) => some cs
  | .add cs => some cs

end Step

theorem members_ofCandidates (cs : List TagCandidate) :
    (ofCandidates cs).toOption.map members = offered? cs := by
  rcases TagCandidate.mapM_cases cs with ⟨ts, htags, haccept, -⟩ | ⟨htags, ⟨e, haccept⟩, -⟩
  · rw [ofCandidates, haccept, offered?, htags]
    exact congrArg some (members_ofList ts)
  · rw [ofCandidates, haccept, offered?, htags]
    rfl

theorem members_ofTexts (names : List String) :
    (ofTexts names).toOption.map members = (names.mapM Tag.ofText?).map List.toFinset := by
  have hnames : (names.mapM Tag.ofText).toOption = names.mapM Tag.ofText? := by
    rw [toOption_mapM]
    congr 1
    funext n
    rw [Tag.ofText]
    cases Tag.ofText? n <;> rfl
  rw [← hnames, ofTexts]
  cases names.mapM Tag.ofText with
  | error e => rfl
  | ok ts => exact congrArg some (members_ofList ts)

/-- A step does to a set what it does to the mathematical set of its members. -/
theorem members_step (s : TagSet) (st : Step) :
    (s.step st).toOption.map members = st.onMembers? s.members := by
  cases st with
  | of cs => exact members_ofCandidates cs
  | named names => exact members_ofTexts names
  | source source =>
    cases source with
    | set u => rfl
    | members cs => exact members_ofCandidates cs
  | add cs =>
    rw [step, Step.onMembers?, ← members_ofCandidates, addCandidates]
    cases ofCandidates cs with
    | error e => rfl
    | ok u => exact congrArg some (members_union s u)

/-- A run does to a set what it does to the mathematical set of its members. -/
theorem members_run (s : TagSet) (steps : List Step) :
    (s.run steps).members = steps.foldl Step.onMembers s.members := by
  induction steps generalizing s with
  | nil => rfl
  | cons st steps ih =>
    have hst : ((s.step st).toOption.getD s).members = st.onMembers s.members := by
      rw [Step.onMembers, ← members_step]
      cases s.step st <;> rfl
    rw [run_cons, ih, hst, List.foldl_cons]

/-- A step that is offered tags fails exactly because of the first thing that is none. -/
theorem step_eq_error_iff {st : Step} {cs : List TagCandidate} (h : st.candidates? = some cs)
    {e : Error} :
    s.step st = .error e ↔
      ∃ (ts : List Tag) (v : Value) (after : List TagCandidate),
        cs = ts.map .tag ++ .other v :: after ∧ e = .notATag v.kindName := by
  rw [← ofCandidates_eq_error_iff]
  cases st with
  | of ds =>
    cases h
    exact Iff.rfl
  | named names => cases h
  | source source =>
    cases source with
    | set u => cases h
    | members ds =>
      cases h
      exact Iff.rfl
  | add ds =>
    cases h
    exact map_eq_error_iff

/-- **A set of tags is a finite set.** A whole number is accepted as one, with its bits, if it fits
into sixteen bits, and a run of steps leaves what it leaves of the mathematical set. Steps fail
because of what is no tag; order, repetitions and how a list is divided do not matter; and the names
of a set, however they are written, are read as the set again. -/
theorem run_represents :
    (∀ bits : Int, ((∃ s, ofBits bits = .ok s) ↔ 0 ≤ bits ∧ bits < 2 ^ 16) ∧
      ∀ s, ofBits bits = .ok s ↔ (s.bits.toNat : Int) = bits) ∧
    (∀ (s : TagSet) (steps : List Step),
      (s.run steps).Represents (steps.foldl Step.onMembers s.members)) ∧
    (∀ (s : TagSet) (st : Step) (cs : List TagCandidate), st.candidates? = some cs →
      ∀ e, s.step st = .error e ↔
        ∃ (ts : List Tag) (v : Value) (after : List TagCandidate),
          cs = ts.map .tag ++ .other v :: after ∧ e = .notATag v.kindName) ∧
    (∀ cs ds : List TagCandidate,
      ofCandidates (cs ++ ds) = ofCandidates cs >>= fun s => s.addCandidates ds) ∧
    (∀ cs ds : List TagCandidate, (∀ c, c ∈ cs ↔ c ∈ ds) →
      ∀ s, ofCandidates cs = .ok s ↔ ofCandidates ds = .ok s) ∧
    (∀ s : TagSet, ofTexts s.names = .ok s ∧
      ∀ ns, List.Forall₂ IsVariant ns s.names → ofTexts ns = .ok s) := by
  refine ⟨fun bits => ⟨exists_ofBits_iff, fun s => ofBits_eq_ok_iff⟩, fun s steps => ?_,
    fun s st cs h e => step_eq_error_iff h, ofCandidates_append, fun cs ds h s => ?_,
    fun s => ⟨ofTexts_names s, fun ns h => ofTexts_of_isVariant h⟩⟩
  · rw [← members_run]
    exact represents_members _
  · simp only [ofCandidates_eq_ok_iff_mem, h]

/-- A tag is offered twice, a step fails because of its second tag and another because of its only
name, and the members come back from names in another letter case with blanks around them. -/
theorem run_represents_copy_and_impl :
    (∃ s, ofBits 65535 = .ok s) ∧ (¬ ∃ s, ofBits (-1) = .ok s) ∧
    (empty.run [.of [.tag .copy, .tag .impl, .tag .copy], .add [.tag .field, .other (.list [])],
      .named ["Getter"]]).Represents {.impl, .copy} ∧
    empty.step (.add [.tag .field, .other (.list [])]) = .error (.notATag "list") ∧
    ofCandidates [.tag .copy, .tag .impl, .tag .copy] = .ok (ofList [.impl, .copy]) ∧
    ofTexts ["\tImpl ", "copy"] = .ok (ofList [.impl, .copy]) := by
  obtain ⟨hbits, hrun, hfails, -, hfree, hnames⟩ := run_represents
  refine ⟨(hbits 65535).1.mpr (by decide), fun h => absurd ((hbits (-1)).1.mp h) (by decide), ?_,
    ?_, ?_, ?_⟩
  · have hmembers := hrun empty [.of [.tag .copy, .tag .impl, .tag .copy],
      .add [.tag .field, .other (.list [])], .named ["Getter"]]
    have hleft : [Step.of [.tag .copy, .tag .impl, .tag .copy],
        .add [.tag .field, .other (.list [])], .named ["Getter"]].foldl Step.onMembers empty.members
        = {.impl, .copy} := by decide +kernel
    rwa [hleft] at hmembers
  · exact (hfails empty _ _ rfl _).mpr ⟨[.field], .list [], [], rfl, rfl⟩
  · exact (hfree [.tag .impl, .tag .copy] _ (by simp) _).mp rfl
  · refine (hnames (ofList [.impl, .copy])).2 _ (.cons ?_ (.cons ?_ .nil))
    · exact ⟨['\t'], "Impl".toList, [' '], by decide, by simp; decide, by decide⟩
    · exact ⟨[], "copy".toList, [], by decide, by simp, by decide⟩

end TagSet

end MemberEncoding
