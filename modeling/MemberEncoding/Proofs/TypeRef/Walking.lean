import MemberEncoding.Proofs.TypeRef.Derivation
import MemberEncoding.TypeRef.Walk

/-!
# MemberEncoding.Proofs.TypeRef.Walking

**A walk over tokens always ends, and gets ahead if it returns** (`walk_ends_ahead`). It meets no
mishap but the refusal of the text: no token is fetched beyond the last, no maker refuses the parts
of a type, every variable that is looked up is in scope, and two levels for each token from the
start on are deep enough. So what it does is to read (`walkText_eq`), by position rather than by
what is left over.

There are two steps to this. At the tokens that start at a position, each look ahead has its answer
and each maker stands behind a test that makes it succeed, which leaves an equation without checks
(`walkType_eq`). Along these equations a walk tracks the reader (`Tracks`), by induction on the
depth. The loop over type arguments goes on at a position that it gets from the walk over an
argument; that there are fewer tokens from there on is what is known of the reader
(`length_lt_of_typeAt`), as the walk over the argument tracks it.
-/

namespace MemberEncoding.TypeRef

open Walk (refuse made token sees)

variable {s : Scope} {text : String} {ts us : List Token} {pos : Nat}

/-! ### Tokens at a position -/

theorem lt_length_of_drop {t : Token} (h : ts.drop pos = t :: us) : pos < ts.length := by
  have hlen := congrArg List.length h
  rw [List.length_drop, List.length_cons] at hlen
  omega

/-- Where fewer tokens are left, the position is further ahead. -/
theorem lt_of_drop {next : Nat} (h : ts.drop pos = us)
    (hfewer : (ts.drop next).length < us.length) : pos < next := by
  rw [← h, List.length_drop, List.length_drop] at hfewer
  omega

theorem drop_succ_of_drop {t : Token} (h : ts.drop pos = t :: us) : ts.drop (pos + 1) = us := by
  rw [← List.tail_drop, h, List.tail_cons]

/-- Where tokens are left, the first of them is fetched. -/
theorem token_of_drop {t : Token} (h : ts.drop pos = t :: us) : token ts pos = pure t := by
  have ht : ts[pos]? = some t := by rw [← List.head?_drop, h, List.head?_cons]
  rw [token, ht]

/-- A look ahead meets no mishap. -/
theorem sees_eq (ts : List Token) (pos : Nat) (test : Token → Bool) :
    sees ts pos test = pure ((ts.drop pos).head?.any test) := by
  unfold sees
  cases h : ts.drop pos with
  | nil =>
    rw [if_neg (Nat.not_lt.mpr (List.drop_eq_nil_iff.mp h))]
    rfl
  | cons t us =>
    rw [if_pos (lt_length_of_drop h), token_of_drop h, pure_bind]
    rfl

/-! ### Makers behind their tests -/

theorem makeNamed_eq (s : Scope) (n : String) : makeNamed s n = .ok (named s n) := by
  unfold makeNamed named Primitive.ofName Scope.lookup
  cases Primitive.ofName? n with
  | some p => rfl
  | none =>
    by_cases hn : n ∈ s
    · simp [hn, Except.map]
    · simp [hn]

theorem ofArguments_toList (n : String) (args : TypeArgs) :
    ofArguments n args.toList = .ok (.parameterized ⟨n⟩ args) := by
  cases h : args.toList with
  | nil => exact absurd h args.toList_ne_nil
  | cons a as =>
    have hargs : TypeArgs.ofList a as = args := by
      apply TypeArgs.toList_injective
      rw [TypeArgs.toList_ofList, h]
    rw [ofArguments, hargs]

theorem ofWildcard_unbounded : ofWildcard "" none = .ok .wildcard := rfl

theorem ofWildcard_bounded {n : String} {side : Side} (h : Side.ofKeyword? n = some side)
    (b : TypeRef) : ofWildcard n (some b) = .ok (.bounded side b) := by
  rw [← Side.keyword_of_ofKeyword? h]
  cases side <;> rfl

/-- The equation of the walk over a type, at the tokens that start at its position. -/
theorem walkType_eq (depth : Nat) (wildcards : Bool) (h : ts.drop pos = us) :
    walkType s text ts (depth + 1) wildcards pos =
      match us with
      | [] => refuse text .endOfInput
      | .question :: us =>
        if wildcards then
          match us with
          | .name n :: _ =>
            match Side.ofKeyword? n with
            | some side => do
              let bound ← walkType s text ts depth false (pos + 2)
              pure (bound.1, .bounded side bound.2)
            | none => pure (pos + 1, .wildcard)
          | _ => pure (pos + 1, .wildcard)
        else refuse text .misplacedWildcard
      | .name n :: us =>
        if (Side.ofKeyword? n).isSome then refuse text (.notAName n)
        else
          match us with
          | .less :: _ =>
            if isHead s n then do
              let args ← walkArgs s text ts depth [] (pos + 2)
              let t ← made (ofArguments n args.2)
              walkBrackets text ts depth t args.1
            else refuse text (.argumentsRefused n)
          | _ => walkBrackets text ts depth (named s n) (pos + 1)
      | t :: _ => refuse text (.notAName t.text) := by
  rw [walkType]
  cases us with
  | nil => rw [if_pos (List.drop_eq_nil_iff.mp h)]
  | cons t us =>
    have hnext := drop_succ_of_drop h
    rw [if_neg (Nat.not_le.mpr (lt_length_of_drop h)), token_of_drop h, pure_bind]
    cases t with
    | question =>
      dsimp only
      rw [sees_eq, hnext, pure_bind, ofWildcard_unbounded]
      cases us with
      | nil => rfl
      | cons u vs =>
        cases u with
        | name n =>
          rw [token_of_drop hnext, pure_bind]
          cases hn : Side.ofKeyword? n with
          | none => simp [Token.isSide, hn]
          | some side => simp [Token.isSide, Token.text, hn, ofWildcard_bounded hn]
        | _ => rfl
    | name n =>
      dsimp only
      rw [sees_eq, hnext, pure_bind, makeNamed_eq]
      cases us with
      | nil => rfl
      | cons u vs => cases u <;> rfl
    | _ => rfl

/-! ### What is known of the reader -/

theorem length_lt_of_argsAt {args : TypeArgs} {rest : List Token}
    (h : argsAt s us = .ok (args, rest)) : rest.length < us.length := by
  obtain ⟨used, rfl, -⟩ := argsAt_sound h
  rw [List.length_append, List.length_cons]
  omega

theorem length_le_of_bracketsAt {t u : TypeRef} {rest : List Token}
    (h : bracketsAt t us = .ok (u, rest)) : rest.length ≤ us.length := by
  fun_induction bracketsAt t us with
  | case1 t us ih =>
    have hle := ih h
    rw [List.length_cons, List.length_cons]
    omega
  | case2 => cases h
  | case3 =>
    cases h
    exact Nat.le_refl _

/-- A wildcard is read only where wildcards are allowed. -/
theorem isWildcard_of_typeAt {t : TypeRef} {rest : List Token}
    (h : typeAt s false us = .ok (t, rest)) : t.isWildcard = false := by
  obtain ⟨used, -, ⟨d⟩⟩ := typeAt_sound h
  exact d.isWildcard

/-! ### Walks that track a reading -/

/-- A walk ends as a reading of the tokens does. It returns a view of what was read, with the
position of the tokens that are left over, or it refuses the text for the fault of the reading. -/
inductive Tracks (text : String) (ts : List Token) {α β : Type} (view : β → α) :
    Walk (Nat × α) → Except TypeFault (β × List Token) → Prop
  | returns {pos b rest} : pos ≤ ts.length → ts.drop pos = rest →
      Tracks text ts view (.ok (pos, view b)) (.ok (b, rest))
  | refuses {fault} : Tracks text ts view (refuse text fault) (.error fault)

section

variable {α β γ δ : Type} {view : β → α} {view' : δ → γ} {x : Walk (Nat × α)}
  {y : Except TypeFault (β × List Token)}

/-- Two walks one after the other track two readings if the second does where the first ends. -/
theorem Tracks.bind {f : Nat × α → Walk (Nat × γ)}
    {g : β × List Token → Except TypeFault (δ × List Token)} (h : Tracks text ts view x y)
    (hf : ∀ pos b, pos ≤ ts.length → y = .ok (b, ts.drop pos) →
      Tracks text ts view' (f (pos, view b)) (g (b, ts.drop pos))) :
    Tracks text ts view' (x >>= f) (y >>= g) := by
  cases h with
  | returns hpos hrest =>
    subst hrest
    exact hf _ _ hpos rfl
  | refuses => exact .refuses

/-- What is returned may be changed along with what was read. -/
theorem Tracks.map {f : Nat × α → Walk (Nat × γ)} {k : β → δ} (h : Tracks text ts view x y)
    (hf : ∀ pos b, f (pos, view b) = .ok (pos, view' (k b))) :
    Tracks text ts view' (x >>= f) (y.map fun p => (k p.1, p.2)) := by
  cases h with
  | returns hpos hrest =>
    show Tracks text ts view' (f _) _
    rw [hf]
    exact .returns hpos hrest
  | refuses => exact .refuses

end

/-- The walk over the brackets behind a type ends as their reading does. -/
theorem tracks_walkBrackets (t : TypeRef) {depth pos : Nat} {us : List Token}
    (hdepth : ts.length - pos < depth) (hpos : pos ≤ ts.length) (h : ts.drop pos = us) :
    Tracks text ts id (walkBrackets text ts depth t pos) (bracketsAt t us) := by
  induction depth generalizing t pos us with
  | zero => exact absurd hdepth (Nat.not_lt_zero _)
  | succ depth ih =>
    rw [walkBrackets, sees_eq, h, pure_bind]
    cases us with
    | nil => exact .returns hpos h
    | cons u us =>
      cases u with
      | opening =>
        have hnext := drop_succ_of_drop h
        rw [sees_eq, hnext, pure_bind]
        cases us with
        | nil => exact .refuses
        | cons v vs =>
          cases v with
          | closing =>
            have hlt := lt_length_of_drop hnext
            exact ih t.array (by omega) hlt (drop_succ_of_drop hnext)
          | _ => exact .refuses
      | _ => exact .returns hpos h

mutual

/-- The walk over a type ends as its reading does. -/
theorem tracks_walkType (wildcards : Bool) : (depth : Nat) → {pos : Nat} → {us : List Token} →
    2 * (ts.length - pos) < depth → ts.drop pos = us →
    Tracks text ts id (walkType s text ts depth wildcards pos) (typeAt s wildcards us)
  | 0, _, _, hdepth, _ => absurd hdepth (Nat.not_lt_zero _)
  | depth + 1, pos, us, hdepth, h => by
    rw [walkType_eq depth wildcards h, typeAt_eq]
    cases us with
    | nil => exact .refuses
    | cons t us =>
      have hlt := lt_length_of_drop h
      have hnext := drop_succ_of_drop h
      cases t with
      | question =>
        cases wildcards with
        | false => exact .refuses
        | true =>
          cases us with
          | nil => exact .returns hlt hnext
          | cons u vs =>
            cases u with
            | name n =>
              dsimp only [if_true]
              cases Side.ofKeyword? n with
              | none => exact .returns hlt hnext
              | some side =>
                have hbound := tracks_walkType false depth (by omega) (drop_succ_of_drop hnext)
                exact hbound.map fun _ _ => rfl
            | _ => exact .returns hlt hnext
      | name n =>
        dsimp only
        cases Side.ofKeyword? n with
        | some side => exact .refuses
        | none =>
          have hnamed : Tracks text ts id (walkBrackets text ts depth (named s n) (pos + 1))
              (bracketsAt (named s n) us) :=
            tracks_walkBrackets (named s n) (by omega) hlt hnext
          cases us with
          | nil => exact hnamed
          | cons u vs =>
            cases u with
            | less =>
              by_cases hhead : isHead s n = true
              · simp only [if_pos hhead]
                have hless := lt_length_of_drop hnext
                have hargs := tracks_walkArgs [] depth (by omega) (drop_succ_of_drop hnext)
                refine hargs.bind fun next args hpos hread => ?_
                have hahead := lt_of_drop (drop_succ_of_drop hnext) (length_lt_of_argsAt hread)
                dsimp only [List.nil_append]
                rw [ofArguments_toList]
                exact tracks_walkBrackets (.parameterized ⟨n⟩ args) (by omega) hpos rfl
              · simp only [if_neg hhead]
                exact .refuses
            | _ => exact hnamed
      | _ => exact .refuses

/-- The walk over type arguments ends as their reading does; those there are stay in front. -/
theorem tracks_walkArgs (args : List TypeRef) : (depth : Nat) → {pos : Nat} → {us : List Token} →
    2 * (ts.length - pos) + 1 < depth → ts.drop pos = us →
    Tracks text ts (fun more : TypeArgs => args ++ more.toList)
      (walkArgs s text ts depth args pos) (argsAt s us)
  | 0, _, _, hdepth, _ => absurd hdepth (Nat.not_lt_zero _)
  | depth + 1, pos, us, hdepth, h => by
    rw [walkArgs, argsAt_eq]
    refine (tracks_walkType true depth (by omega) h).bind fun next arg hnext harg => ?_
    -- The loop goes on behind the argument, where there are fewer tokens.
    have hahead : pos < next := lt_of_drop h (length_lt_of_typeAt harg)
    dsimp only
    rw [sees_eq, pure_bind, sees_eq, pure_bind]
    cases hrest : ts.drop next with
    | nil => exact .refuses
    | cons t us =>
      have hlt := lt_length_of_drop hrest
      cases t with
      | comma =>
        have hmore := tracks_walkArgs (args ++ [arg]) depth (by omega) (drop_succ_of_drop hrest)
        simp only [List.head?_cons, Option.any_some, beq_self_eq_true, if_true]
        rw [← bind_pure (walkArgs s text ts _ _ _)]
        refine hmore.map fun _ more => ?_
        rw [List.append_assoc]
        rfl
      | greater => exact .returns (b := TypeArgs.one arg) hlt (drop_succ_of_drop hrest)
      | _ => exact .refuses

end

/-! ### Ends -/

/-- A walk ends within a number of levels. If it may go deeper, then one of two things comes of it:
a position and a result, of which `returned` holds, or the refusal of the text for a fault, of which
`refused` holds. -/
def EndsWithin (levels : Nat) (text : String) {α : Type} (x : Nat → Walk (Nat × α))
    (returned : Nat → α → Prop) (refused : TypeFault → Prop) : Prop :=
  ∀ depth, levels < depth →
    (∃ pos a, x depth = .ok (pos, a) ∧ returned pos a) ∨
    ∃ fault, x depth = .error (.refused (.unreadableType text fault)) ∧ refused fault

theorem endsWithin_of_tracks {α β : Type} {view : β → α} {levels : Nat} {x : Nat → Walk (Nat × α)}
    {y : Except TypeFault (β × List Token)}
    (h : ∀ depth, levels < depth → Tracks text ts view (x depth) y) {returned : Nat → α → Prop}
    (hreturned : ∀ pos b, pos ≤ ts.length → y = .ok (b, ts.drop pos) → returned pos (view b)) :
    EndsWithin levels text x returned fun fault => y = .error fault := by
  intro depth hdepth
  have htracks := h depth hdepth
  generalize x depth = w at htracks ⊢
  cases htracks with
  | returns hpos hrest =>
    subst hrest
    exact .inl ⟨_, _, rfl, hreturned _ _ hpos rfl⟩
  | refuses => exact .inr ⟨_, rfl, rfl⟩

/-- **Walks end, and get ahead.** Whatever the tokens are and wherever it starts, a walk over a
type, over type arguments or over array brackets ends, and it ends as the reader does on the tokens
from there on. It fails only by refusing the text. A position that it returns is not beyond the
tokens and lies ahead of the start, which it may be itself if there are no brackets; and a wildcard
is returned only where wildcards are allowed. -/
theorem walk_ends_ahead (s : Scope) (text : String) (ts : List Token) :
    (∀ wildcards pos,
      EndsWithin (2 * (ts.length - pos)) text (walkType s text ts · wildcards pos)
        (fun pos' t => pos < pos' ∧ pos' ≤ ts.length ∧ (t.isWildcard = true → wildcards = true) ∧
          typeAt s wildcards (ts.drop pos) = .ok (t, ts.drop pos'))
        fun fault => typeAt s wildcards (ts.drop pos) = .error fault) ∧
    (∀ args pos,
      EndsWithin (2 * (ts.length - pos) + 1) text (walkArgs s text ts · args pos)
        (fun pos' args' => pos < pos' ∧ pos' ≤ ts.length ∧ ∃ more, args' = args ++ more.toList ∧
          argsAt s (ts.drop pos) = .ok (more, ts.drop pos'))
        fun fault => argsAt s (ts.drop pos) = .error fault) ∧
    (∀ t pos,
      EndsWithin (ts.length - pos) text (walkBrackets text ts · t pos)
        (fun pos' t' => pos ≤ pos' ∧ pos' ≤ max pos ts.length ∧
          bracketsAt t (ts.drop pos) = .ok (t', ts.drop pos'))
        fun fault => bracketsAt t (ts.drop pos) = .error fault) := by
  refine ⟨fun wildcards pos => ?_, fun args pos => ?_, fun t pos => ?_⟩
  · refine endsWithin_of_tracks (fun depth hdepth => tracks_walkType wildcards depth hdepth rfl) ?_
    intro pos' t hpos ht
    have hahead : pos < pos' := lt_of_drop rfl (length_lt_of_typeAt ht)
    refine ⟨hahead, hpos, fun hwild => ?_, ht⟩
    cases wildcards with
    | true => rfl
    | false => exact absurd hwild (by simp [isWildcard_of_typeAt ht])
  · refine endsWithin_of_tracks (fun depth hdepth => tracks_walkArgs args depth hdepth rfl) ?_
    intro pos' more hpos hmore
    have hahead : pos < pos' := lt_of_drop rfl (length_lt_of_argsAt hmore)
    exact ⟨hahead, hpos, more, rfl, hmore⟩
  · by_cases hin : pos ≤ ts.length
    · refine endsWithin_of_tracks (fun _ hdepth => tracks_walkBrackets t hdepth hin rfl) ?_
      intro pos' t' hpos ht'
      have hle := length_le_of_bracketsAt ht'
      rw [List.length_drop, List.length_drop] at hle
      exact ⟨by omega, by omega, ht'⟩
    · -- Beyond the last token nothing is seen.
      have hnil : ts.drop pos = [] := List.drop_eq_nil_iff.mpr (by omega)
      intro depth hdepth
      cases depth with
      | zero => exact absurd hdepth (Nat.not_lt_zero _)
      | succ depth =>
        dsimp only
        rw [walkBrackets, sees_eq, hnil]
        exact .inl ⟨pos, t, rfl, Nat.le_refl _, Nat.le_max_left .., by rw [hnil]; rfl⟩

example :
    walkType .empty "List<?>[" [.name "List", .less, .question, .greater, .opening] 11 false 0 =
      .error (.refused (.unreadableType "List<?>[" .openBrackets)) := by rfl

/-! ### Texts -/

/-- Tokens are read as a type if one is at their front and none are left over. -/
theorem outcome_ofTokens_cons (s : Scope) (t : Token) (us : List Token) :
    (ofTokens s (t :: us)).outcome =
      typeAt s false (t :: us) >>= fun p =>
        match p.2 with
        | [] => .ok p.1
        | u :: _ => .error (.leftover u.text) := by
  simp only [ofTokens, Reading.outcome_bind, typeAt]
  cases (readType s false (t :: us)).outcome with
  | error fault => rfl
  | ok p =>
    obtain ⟨u, rest, _⟩ := p
    cases rest <;> rfl

/-- To read the text of a type is to walk over it. -/
theorem walkText_eq (s : Scope) (text : String) :
    walkText s text = (read s text).outcome.mapError .refused := by
  rw [read, Reading.outcome_mapError, ofChars, walkText]
  cases lex text.toList with
  | error c => rfl
  | ok ts =>
    cases ts with
    | nil => rfl
    | cons t us =>
      dsimp only
      rw [outcome_ofTokens_cons, if_neg (List.cons_ne_nil t us)]
      have htype : Tracks text (t :: us) id
          (walkType s text (t :: us) (2 * (t :: us).length + 1) false 0)
          (typeAt s false (t :: us)) := tracks_walkType false _ (Nat.lt_succ_self _) rfl
      generalize walkType s text (t :: us) _ false 0 = x, typeAt s false (t :: us) = y at htype ⊢
      cases htype with
      | refuses => rfl
      | @returns pos t' rest hpos hrest =>
        simp only [bind, Except.bind]
        cases rest with
        | nil =>
          have hend : pos = (t :: us).length := Nat.le_antisymm hpos (List.drop_eq_nil_iff.mp hrest)
          rw [if_pos hend]
          rfl
        | cons u vs =>
          rw [if_neg (Nat.ne_of_lt (lt_length_of_drop hrest)), token_of_drop hrest]
          rfl

end MemberEncoding.TypeRef
