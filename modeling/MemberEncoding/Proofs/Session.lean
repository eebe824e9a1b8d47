import MemberEncoding.Proofs.Descriptor.Record
import MemberEncoding.Proofs.Pool
import MemberEncoding.Session

/-!
# MemberEncoding.Proofs.Session

**A session shares types without anyone noticing** (`run_shares_exactly`). What comes out of a
request is decided by the scope alone, and the pool gets the names that are in it; a request that
fails leaves some of the names behind that it came to parse.

All of this is read off one description of a step (`step_eq`): what comes out (`answer`), what goes
on record (`mentions`), and which scope the next request finds (`nextScope`).
-/

namespace MemberEncoding.Session

open TypeRef (lex)

/-! ### Steps -/

/-- What comes out of a request in a scope. -/
def answer (s : Scope) : Request → Except Error Answer
  | .type text => (TypeRef.read s text).outcome.map .type
  | .reference name => .ok (.type (.reference ⟨name⟩))
  | .primitive name => (Primitive.ofName name).map fun p => .type (.primitive p)
  | .introduce name => (s.introduce name).map fun _ => .done
  | .element d => (Descriptor.read s d).outcome.map .element

/-- What a request in a scope puts on record. -/
def mentions (s : Scope) : Request → List Mention
  | .type text => (TypeRef.read s text).mentions
  | .reference name => [.reference ⟨name⟩]
  | .primitive name => (referToPrimitive name).mentions
  | .introduce _ => []
  | .element d => (Descriptor.read s d).mentions

/-- The scope after a request. -/
def nextScope (s : Scope) : Request → Scope
  | .introduce name =>
    match s.introduce name with
    | .ok scope => scope
    | .error _ => s
  | _ => s

theorem reading_eq {α : Type} {s : Session} (h : s.pool.Faithful) {share : Pool → α → α}
    (hshare : ∀ q : Pool, q.Faithful → ∀ a, share q a = a) (answer : α → Answer)
    (r : Reading Error α) :
    s.reading share answer r = (⟨s.pool.recordAll r.mentions, s.scope⟩, r.outcome.map answer) := by
  rw [reading, h.absorb_eq hshare]

theorem outcome_referToPrimitive (name : String) :
    (referToPrimitive name).outcome = (Primitive.ofName name).map .primitive := by
  unfold referToPrimitive
  rw [Reading.outcome_bind, Reading.outcome_of]
  cases Primitive.ofName name <;> rfl

theorem mentions_referToPrimitive (name : String) :
    (referToPrimitive name).mentions = onOk (Primitive.ofName name) fun p => [.primitive p] := by
  unfold referToPrimitive
  rw [Reading.mentions_bind, Reading.outcome_of]
  cases Primitive.ofName name <;> rfl

/-- What a request does. -/
theorem step_eq {s : Session} (h : s.pool.Faithful) (r : Request) :
    s.step r = (⟨s.pool.recordAll (mentions s.scope r), nextScope s.scope r⟩,
      answer s.scope r) := by
  have hintern : ∀ q : Pool, q.Faithful → ∀ t, q.intern t = t := fun _ hq => hq.intern_eq
  cases r with
  | type text => exact reading_eq h hintern _ _
  | reference name => exact reading_eq h hintern _ _
  | primitive name =>
    rw [step, reading_eq h hintern, answer, outcome_referToPrimitive]
    cases Primitive.ofName name <;> rfl
  | introduce name =>
    dsimp only [step, nextScope, answer]
    cases s.scope.introduce name <;> rfl
  | element d => exact reading_eq h (fun _ hq => hq.internElement_eq) _ _

/-! ### What goes on record -/

/-- The types in what comes out. -/
def Answer.types : Answer → List TypeRef
  | .type t => [t]
  | .element e => e.types
  | .done => []

/-- The names in what comes out. -/
def Answer.mentions (a : Answer) : List Mention := a.types.flatMap TypeRef.mentions

/-- The parses that a request comes to. -/
def parses (s : Scope) : Request → List Parse
  | .type text => [⟨s, text⟩]
  | .element d => d.parses s
  | _ => []

/-- A request that succeeds has on record what comes out. -/
theorem mentions_of_answer_eq_ok {s : Scope} {r : Request} {a : Answer}
    (h : answer s r = .ok a) : mentions s r = a.mentions := by
  cases r with
  | type text =>
    obtain ⟨t, ht, rfl⟩ := map_eq_ok_iff.mp h
    simp [mentions, TypeRef.mentions_read_of_ok ht, Answer.mentions, Answer.types]
  | reference name =>
    cases h
    rfl
  | primitive name =>
    obtain ⟨p, hp, rfl⟩ := map_eq_ok_iff.mp h
    simp [mentions, mentions_referToPrimitive, hp, Answer.mentions, Answer.types, TypeRef.mentions]
  | introduce name =>
    obtain ⟨scope, -, rfl⟩ := map_eq_ok_iff.mp h
    rfl
  | element d =>
    obtain ⟨e, he, rfl⟩ := map_eq_ok_iff.mp h
    exact Descriptor.mentions_read_of_ok he

/-- A request that fails has on record what its parses put there. -/
theorem mentions_of_answer_eq_error {s : Scope} {r : Request} {e : Error}
    (h : answer s r = .error e) : mentions s r = (parses s r).flatMap Parse.mentions := by
  cases r with
  | type text => simp [mentions, parses, Parse.mentions]
  | reference name => cases h
  | primitive name =>
    dsimp only [answer] at h
    cases hp : Primitive.ofName name with
    | ok p =>
      rw [hp] at h
      cases h
    | error e' => simp [mentions, mentions_referToPrimitive, hp, parses]
  | introduce name => rfl
  | element d => exact Descriptor.mentions_read s d

/-- A request that fails leaves the scope as it is. -/
theorem nextScope_of_answer_eq_error {s : Scope} {r : Request} {e : Error}
    (h : answer s r = .error e) : nextScope s r = s := by
  cases r with
  | introduce name =>
    dsimp only [answer, nextScope] at h ⊢
    cases hs : s.introduce name with
    | ok scope =>
      rw [hs] at h
      cases h
    | error e' => rfl
  | _ => rfl

/-! ### Runs -/

theorem isExact_step {s : Session} (h : s.pool.IsExact) (r : Request) :
    (s.step r).1.pool.IsExact := by
  rw [step_eq h.faithful]
  exact h.recordAll _

theorem isExact_run {s : Session} (h : s.pool.IsExact) (requests : List Request) :
    (s.run requests).pool.IsExact := by
  induction requests generalizing s with
  | nil => exact h
  | cons r requests ih => exact ih (isExact_step h r)

theorem extends_step {s : Session} (h : s.pool.IsExact) (r : Request) :
    (s.step r).1.pool.Extends s.pool := by
  rw [step_eq h.faithful]
  exact Pool.recordAll_extends _ _

theorem extends_run {s : Session} (h : s.pool.IsExact) (requests : List Request) :
    (s.run requests).pool.Extends s.pool := by
  induction requests generalizing s with
  | nil => exact .refl _
  | cons r requests ih =>
    have hrest : (s.run (r :: requests)).pool.Extends (s.step r).1.pool := ih (isExact_step h r)
    exact hrest.trans (extends_step h r)

/-- The name is one among the tokens of a text that is parsed. -/
def IsParsedName (parses : List Parse) (n : String) : Prop :=
  ∃ p ∈ parses, ∃ ts, lex p.text.toList = .ok ts ∧ .name n ∈ ts

theorem isParsedName_of_mem {ps : List Parse} {m : Mention}
    (h : m ∈ ps.flatMap Parse.mentions) : IsParsedName ps m.name := by
  obtain ⟨p, hp, hm⟩ := List.mem_flatMap.mp h
  exact ⟨p, hp, TypeRef.name_mem_of_mem_mentions_read hm⟩

/-- What is left of a request that fails: some of the names that it came to parse. -/
structure LeavesBehind (s next : Session) (parses : List Parse) : Prop where
  scope : next.scope = s.scope
  references : ∀ n ∈ next.pool.referenceNames, n ∈ s.pool.referenceNames ∨ IsParsedName parses n
  primitives : ∀ n ∈ next.pool.primitiveNames, n ∈ s.pool.primitiveNames ∨ IsParsedName parses n

theorem leavesBehind_of_answer_eq_error {s : Session} (h : s.pool.Faithful) {r : Request}
    {e : Error} (he : answer s.scope r = .error e) :
    LeavesBehind s (s.step r).1 (parses s.scope r) := by
  have hadds := Pool.recordAll_adds s.pool (mentions s.scope r)
  rw [mentions_of_answer_eq_error he] at hadds
  rw [step_eq h, mentions_of_answer_eq_error he]
  refine ⟨nextScope_of_answer_eq_error he, fun n hn => ?_, fun n hn => ?_⟩
  · exact ((hadds.references n).mp hn).imp id fun hm => isParsedName_of_mem hm
  · rcases (hadds.primitives n).mp hn with hn | ⟨p, rfl, hm⟩
    · exact .inl hn
    · exact .inr (isParsedName_of_mem hm)

/-- **Sharing is invisible and exact.** In a session that starts empty each name has one entry, for
good. A request has the outcome that it has with a pool of its own. If it succeeds, the pool gets
the names in what comes out, and if it fails, none but names that it came to parse. -/
theorem run_shares_exactly (requests : List Request) (r : Request) :
    let s := empty.run requests
    let next := (s.step r).1
    let outcome := (s.step r).2
    (s.pool.IsExact ∧ s.scope.names.Nodup ∧ ∀ more, (s.run more).pool.Extends s.pool) ∧
    outcome = (step ⟨.empty, s.scope⟩ r).2 ∧
    (∀ a, outcome = .ok a → next.pool.Adds s.pool a.mentions) ∧
    (∀ e, outcome = .error e → LeavesBehind s next (parses s.scope r) ∧
      ∀ name, r = .primitive name → next = s) := by
  intro s next outcome
  have hexact : s.pool.IsExact := isExact_run Pool.isExact_empty requests
  have hstep := step_eq hexact.faithful r
  have hfresh := step_eq (s := ⟨.empty, s.scope⟩) Pool.faithful_empty r
  have houtcome : outcome = answer s.scope r := congrArg Prod.snd hstep
  have hnext : next = ⟨s.pool.recordAll (mentions s.scope r), nextScope s.scope r⟩ :=
    congrArg Prod.fst hstep
  refine ⟨⟨hexact, s.scope.nodup, extends_run hexact⟩, ?_, fun a ha => ?_, fun e he => ⟨?_, ?_⟩⟩
  · rw [houtcome, hfresh]
  · rw [hnext, mentions_of_answer_eq_ok (houtcome.symm.trans ha)]
    exact Pool.recordAll_adds _ _
  · exact leavesBehind_of_answer_eq_error hexact.faithful (houtcome.symm.trans he)
  · rintro name rfl
    have hnone := mentions_of_answer_eq_error (houtcome.symm.trans he)
    rw [hnext, hnone]
    rfl

/-- With a type variable in scope, a parameterized type gives its head an entry, and a name that is
no primitive type changes nothing. -/
theorem run_list_of_variable :
    let s := empty.run [.introduce "T"]
    (∃ a, (s.step (.type "List<T>")).2 = .ok a ∧ ∀ n,
      n ∈ (s.step (.type "List<T>")).1.pool.referenceNames ↔ n = "List") ∧
    ∃ e, (s.step (.primitive "T")).2 = .error e ∧ (s.step (.primitive "T")).1 = s := by
  intro s
  let t : TypeRef := .parameterized ⟨"List"⟩ (.one (.var "T"))
  have hs : s = ⟨.empty, ⟨["T"], by decide⟩⟩ := rfl
  have hread : (TypeRef.read ⟨["T"], by decide⟩ "List<T>").outcome = .ok t :=
    TypeRef.read_of_lex (by decide +kernel) (by decide +kernel)
  have htype : (s.step (.type "List<T>")).2 = .ok (.type t) := by
    rw [hs, step_eq Pool.faithful_empty, answer, hread]
    rfl
  have hprimitive : (s.step (.primitive "T")).2 = .error (.notPrimitive "T") := by
    rw [hs, step_eq Pool.faithful_empty]
    rfl
  obtain ⟨-, -, hadds, -⟩ := run_shares_exactly [.introduce "T"] (.type "List<T>")
  obtain ⟨-, -, -, hfails⟩ := run_shares_exactly [.introduce "T"] (.primitive "T")
  refine ⟨⟨_, htype, fun n => ?_⟩, _, hprimitive, (hfails _ hprimitive).2 "T" rfl⟩
  have hempty : n ∉ s.pool.referenceNames := List.not_mem_nil
  have hmentions : (Answer.type t).mentions = [.reference ⟨"List"⟩] := rfl
  rw [(hadds _ htype).references n, hmentions, or_iff_right hempty]
  simp

end MemberEncoding.Session
