import MemberEncoding.Proofs.Record
import MemberEncoding.Proofs.TypeRef.Derivation

/-!
# MemberEncoding.Proofs.TypeRef.Mentions

**What reading a type puts on record.** A type that is read has exactly the names on record that are
in it (`mentions_read_of_ok`), and if it is not read, all that is on record are names among the
tokens of its text (`name_mem_of_mem_mentions_read`). Both hold of each step of the reader, which
goes over the tokens once (`Records`).
-/

namespace MemberEncoding

/-- The name that is mentioned. -/
def Mention.name : Mention → String
  | .primitive p => p.name
  | .reference r => r.name

namespace TypeRef

variable {s : Scope}

/-! ### The names in a type -/

mutual

/-- The primitive and declared types in a type. The head of a parameterized type comes after those
in its arguments. -/
def mentions : TypeRef → List Mention
  | primitive p => [.primitive p]
  | reference r => [.reference r]
  | parameterized head args => argMentions args ++ [.reference head]
  | array element => element.mentions
  | var _ | wildcard => []
  | bounded _ bound => bound.mentions

/-- The primitive and declared types in type arguments. -/
def argMentions : TypeArgs → List Mention
  | .one a => a.mentions
  | .cons a more => a.mentions ++ argMentions more

end

/-! ### Steps of the reader -/

/-- All that a step on the tokens puts on record are names among them, and if it succeeds, this and
what was on record before are what its result shows. -/
structure Records {ε α : Type} (ts : List Token) (before : List Mention) (view : α → List Mention)
    (r : Reading ε α) : Prop where
  names : ∀ m ∈ r.mentions, .name m.name ∈ ts
  exact : ∀ a, r.outcome = .ok a → view a = before ++ r.mentions

section

variable {ε α β : Type} {ts us : List Token} {before : List Mention} {view : α → List Mention}

theorem records_fail (e : ε) : Records ts before view (.fail e) where
  names := by simp
  exact := by
    intro a h
    cases h

theorem records_pure {a : α} (h : view a = before) :
    Records ts before view (pure a : Reading ε α) where
  names := by simp
  exact := by
    rintro _ ⟨⟩
    simpa using h

theorem records_mention {m : Mention} (h : .name m.name ∈ ts) :
    Records ts before (fun _ => before ++ [m]) (Reading.mention m : Reading ε Unit) where
  names := by
    intro m' hm
    rw [List.mem_singleton.mp hm]
    exact h
  exact := fun _ _ => rfl

/-- A step on some of the tokens, whose result is changed to one that shows what was on record
before as well. -/
theorem Records.map {view' : β → List Mention} {r : Reading ε α} (h : Records us [] view r)
    (hsub : ∀ t ∈ us, t ∈ ts) {f : α → β} (hf : ∀ a, view' (f a) = before ++ view a) :
    Records ts before view' (r.map f) where
  names := fun m hm => hsub _ (h.names m hm)
  exact := by
    intro b hb
    obtain ⟨a, ha, rfl⟩ := map_eq_ok_iff.mp hb
    rw [hf, h.exact a ha]
    rfl

theorem Records.bind {view' : β → List Mention} {r : Reading ε α} (h : Records us before view r)
    (hsub : ∀ t ∈ us, t ∈ ts) {f : α → Reading ε β}
    (hf : ∀ a, r.outcome = .ok a → Records ts (view a) view' (f a)) :
    Records ts before view' (r >>= f) where
  names := by
    intro m hm
    rw [Reading.mentions_bind] at hm
    rcases List.mem_append.mp hm with hm | hm
    · exact hsub _ (h.names m hm)
    · cases ha : r.outcome with
      | error e =>
        rw [ha] at hm
        cases hm
      | ok a =>
        rw [ha] at hm
        exact (hf a ha).names m hm
  exact := by
    intro b hb
    rw [Reading.outcome_bind] at hb
    obtain ⟨a, ha, hb⟩ := bind_eq_ok_iff.mp hb
    rw [(hf a ha).exact b hb, h.exact a ha, Reading.mentions_bind, ha, onOk_ok, List.append_assoc]

end

theorem records_ofName (n : String) (ts : List Token) :
    Records (.name n :: ts) [] mentions (ofName s n) := by
  have hself : ∀ m : Mention, m.name = n → .name m.name ∈ .name n :: ts := by
    rintro m rfl
    exact List.mem_cons_self ..
  unfold ofName
  cases hp : Primitive.ofName? n with
  | some p =>
    have hname := hself (.primitive p) (Primitive.name_of_ofName? hp)
    exact (records_mention hname).bind (fun _ ht => ht) fun _ _ => records_pure rfl
  | none =>
    by_cases hs : n ∈ s
    · simp only [if_pos hs]
      exact records_pure rfl
    · simp only [if_neg hs]
      have hname := hself (.reference ⟨n⟩) rfl
      exact (records_mention hname).bind (fun _ ht => ht) fun _ _ => records_pure rfl

theorem mentions_of_bracketsAt {t u : TypeRef} {ts rest : List Token}
    (h : bracketsAt t ts = .ok (u, rest)) : u.mentions = t.mentions := by
  fun_induction bracketsAt t ts with
  | case1 t ts ih => exact ih h
  | case2 => cases h
  | case3 =>
    cases h
    rfl

/-- Array brackets put nothing on record. -/
theorem records_arrays {start us ts : List Token} (t : TypeRef) (h : us.length < start.length) :
    Records ts t.mentions (fun p : Parsed TypeRef start => p.value.mentions)
      (.of (arrays t us h)) where
  names := by simp
  exact := by
    intro p hp
    have hbrackets := arrays_map t h
    rw [show arrays t us h = .ok p from hp] at hbrackets
    simpa using mentions_of_bracketsAt hbrackets.symm

/-- The tokens that are left over are among those that were there. -/
theorem mem_of_mem_rest {wildcards : Bool} {ts : List Token} {p : Parsed TypeRef ts}
    (h : (readType s wildcards ts).outcome = .ok p) : ∀ t ∈ p.rest, t ∈ ts := by
  have htype : typeAt s wildcards ts = .ok (p.value, p.rest) := by
    rw [typeAt, h]
    rfl
  obtain ⟨used, hused, -⟩ := typeAt_sound htype
  intro t ht
  rw [hused]
  exact List.mem_append_right used ht

mutual

theorem records_readType (s : Scope) (wildcards : Bool) (ts : List Token) :
    Records ts [] (fun p => p.value.mentions) (readType s wildcards ts) := by
  have htail : ∀ {t u : Token} {us : List Token}, ∀ v ∈ us, v ∈ t :: u :: us := fun v hv =>
    List.mem_cons_of_mem _ (List.mem_cons_of_mem _ hv)
  have hname : ∀ (n : String) (us : List Token) (h : us.length < (Token.name n :: us).length),
      Records (.name n :: us) [] (fun p => p.value.mentions)
        (ofName s n >>= fun t => Reading.of (arrays t us h)) := fun n us _ =>
    (records_ofName n us).bind (fun _ ht => ht) fun t _ => records_arrays t _
  rw [readType.eq_def]
  cases ts with
  | nil => exact records_fail _
  | cons t ts =>
    cases t with
    | question =>
      cases wildcards with
      | false => exact records_fail _
      | true =>
        cases ts with
        | nil => exact records_pure rfl
        | cons u us =>
          cases u with
          | name n =>
            dsimp only [if_true]
            cases Side.ofKeyword? n with
            | none => exact records_pure rfl
            | some side =>
              refine Records.map (records_readType s false us) htail ?_
              exact fun _ => rfl
          | _ => exact records_pure rfl
    | name n =>
      dsimp only
      cases Side.ofKeyword? n with
      | some side => exact records_fail _
      | none =>
        cases ts with
        | nil => exact hname n [] _
        | cons u us =>
          cases u with
          | less =>
            simp only [Option.isSome_none, Bool.false_eq_true, if_false]
            by_cases hn : isHead s n = true
            · simp only [if_pos hn]
              -- The head goes on record between its arguments and the brackets behind them.
              refine (records_readArgs s us).bind htail fun args _ => ?_
              have hhead : .name (Mention.reference ⟨n⟩).name ∈ .name n :: .less :: us :=
                List.mem_cons_self ..
              refine (records_mention hhead).bind (fun _ ht => ht) fun _ _ => ?_
              exact records_arrays (.parameterized ⟨n⟩ args.value) _
            · simp only [if_neg hn]
              exact records_fail _
          | _ => exact hname n _ _
    | _ => exact records_fail _
  termination_by (ts.length, 0)

theorem records_readArgs (s : Scope) (ts : List Token) :
    Records ts [] (fun p => argMentions p.value) (readArgs s ts) := by
  rw [readArgs]
  refine (records_readType s true ts).bind (fun _ ht => ht) fun p hp => ?_
  have hrest := mem_of_mem_rest hp
  obtain ⟨arg, rest, hlt⟩ := p
  cases rest with
  | nil => exact records_fail _
  | cons u us =>
    cases u with
    | comma =>
      have hfewer : us.length < ts.length := Nat.lt_of_succ_lt hlt
      refine Records.map (records_readArgs s us) ?_ ?_
      · exact fun t ht => hrest t (List.mem_cons_of_mem _ ht)
      · exact fun _ => rfl
    | greater => exact records_pure rfl
    | _ => exact records_fail _
  termination_by (ts.length, 1)

end

/-! ### Texts -/

theorem records_ofTokens (s : Scope) (ts : List Token) :
    Records ts [] mentions (ofTokens s ts) := by
  unfold ofTokens
  split
  · exact records_fail _
  · refine (records_readType s false ts).bind (fun _ ht => ht) fun p _ => ?_
    split
    · exact records_pure rfl
    · exact records_fail _

theorem mentions_read_of_lex {text : String} {ts : List Token} (h : lex text.toList = .ok ts) :
    (read s text).mentions = (ofTokens s ts).mentions := by
  show (ofChars s text.toList).mentions = _
  rw [ofChars, h]

/-- What is on record of a type that was read are the names in it. -/
theorem mentions_read_of_ok {text : String} {t : TypeRef} (h : (read s text).outcome = .ok t) :
    (read s text).mentions = t.mentions := by
  obtain ⟨ts, hlex, hderives⟩ := outcome_read_eq_ok_iff.mp h
  have htokens := outcome_ofTokens_iff_derives.mpr hderives
  rw [mentions_read_of_lex hlex]
  exact ((records_ofTokens s ts).exact t htokens).symm

/-- All that is on record of a text are names among its tokens. -/
theorem name_mem_of_mem_mentions_read {text : String} {m : Mention}
    (h : m ∈ (read s text).mentions) : ∃ ts, lex text.toList = .ok ts ∧ .name m.name ∈ ts := by
  cases hlex : lex text.toList with
  | error c =>
    -- Nothing is read of a text that has no tokens.
    have hnone : (read s text).mentions = [] := by
      show (ofChars s text.toList).mentions = []
      rw [ofChars, hlex]
      rfl
    rw [hnone] at h
    cases h
  | ok ts =>
    rw [mentions_read_of_lex hlex] at h
    exact ⟨ts, rfl, (records_ofTokens s ts).names m h⟩

end TypeRef

end MemberEncoding
