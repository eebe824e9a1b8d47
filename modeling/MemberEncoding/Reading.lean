import MemberEncoding.TypeRef.Basic

/-!
# MemberEncoding.Reading

**Reading with a record.** Reading a text mentions types by name, and what was mentioned stays on
record even if the reading fails later on. A `Reading` is the pair of the two: the mentions in
order, and the outcome.

The outcome of a sequence of steps is the sequence of their outcomes (`outcome_bind`), so what is
read never depends on the record.
-/

namespace MemberEncoding

/-- A primitive or declared type that a text mentions by name. -/
inductive Mention
  | primitive (p : Primitive)
  | reference (r : Reference)
  deriving DecidableEq

/-- What was mentioned, and what came out. -/
structure Reading (ε α : Type) where
  mentions : List Mention
  outcome : Except ε α

namespace Reading

variable {ε α β : Type}

/-- A reading that mentions nothing. -/
def of (x : Except ε α) : Reading ε α := ⟨[], x⟩

/-- Fails. -/
def fail (e : ε) : Reading ε α := of (.error e)

/-- Puts a mention on record. -/
def mention (m : Mention) : Reading ε Unit := ⟨[m], .ok ()⟩

/-- Goes on with the result of a reading; a failure ends it. -/
def andThen (r : Reading ε α) (f : α → Reading ε β) : Reading ε β :=
  match r.outcome with
  | .error e => ⟨r.mentions, .error e⟩
  | .ok a =>
    let next := f a
    ⟨r.mentions ++ next.mentions, next.outcome⟩

/-- Changes the result of a reading. -/
def map (f : α → β) (r : Reading ε α) : Reading ε β := ⟨r.mentions, r.outcome.map f⟩

instance : Monad (Reading ε) where
  pure a := of (.ok a)
  bind := andThen
  map := map

/-- Changes the cause of a failure. -/
def mapError {δ : Type} (f : ε → δ) (r : Reading ε α) : Reading δ α :=
  ⟨r.mentions, r.outcome.mapError f⟩

@[simp] theorem outcome_of (x : Except ε α) : (of x).outcome = x := rfl

@[simp] theorem outcome_fail (e : ε) : (fail e : Reading ε α).outcome = .error e := rfl

@[simp] theorem outcome_pure (a : α) : (pure a : Reading ε α).outcome = .ok a := rfl

@[simp] theorem outcome_mention (m : Mention) : (mention m : Reading ε Unit).outcome = .ok () := rfl

@[simp] theorem outcome_mapError {δ : Type} (f : ε → δ) (r : Reading ε α) :
    (r.mapError f).outcome = r.outcome.mapError f := rfl

@[simp] theorem outcome_bind (r : Reading ε α) (f : α → Reading ε β) :
    (r >>= f).outcome = r.outcome >>= fun a => (f a).outcome := by
  show (andThen r f).outcome = _
  unfold andThen
  cases r.outcome <;> rfl

@[simp] theorem outcome_map (f : α → β) (r : Reading ε α) :
    (f <$> r).outcome = r.outcome.map f := rfl

theorem bind_pure_eq_map (f : α → β) (r : Reading ε α) : (r >>= fun a => pure (f a)) = f <$> r := by
  obtain ⟨ms, x⟩ := r
  cases x <;> simp [bind, andThen, Functor.map, map, pure, of, Except.map]

instance : LawfulMonad (Reading ε) := LawfulMonad.mk' (Reading ε)
  (by
    rintro α ⟨ms, x⟩
    cases x <;> rfl)
  (by
    intro α β a f
    simp [bind, andThen, pure, of])
  (by
    rintro α β γ ⟨ms, x⟩ f g
    cases x with
    | error e => rfl
    | ok a =>
      simp only [bind, andThen]
      cases (f a).outcome <;> simp)
  (by intros; rfl)
  (by intros; rfl)
  (by intros; rfl)
  bind_pure_eq_map
  (by intros; rfl)

end Reading

end MemberEncoding
