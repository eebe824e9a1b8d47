import MemberEncoding.Proofs.Reading

/-!
# MemberEncoding.Proofs.Record

**What goes on record** in a sequence of steps. A step adds its mentions to those of the steps
before it, if all of these succeed (`mentions_bind`). For steps on a list these are the mentions of
the items that are come to: those up to the first one that fails, which is among them (`reached`).
-/

namespace MemberEncoding

variable {ε α β γ δ : Type}

/-! ### What follows on a result -/

/-- What follows on a result; nothing follows on a failure. -/
def onOk (x : Except ε α) (f : α → List γ) : List γ :=
  match x with
  | .ok a => f a
  | .error _ => []

@[simp] theorem onOk_ok (a : α) (f : α → List γ) : onOk (.ok a : Except ε α) f = f a := rfl

@[simp] theorem onOk_error (e : ε) (f : α → List γ) : onOk (.error e) f = [] := rfl

@[simp] theorem onOk_nil (x : Except ε α) : onOk x (fun _ => ([] : List γ)) = [] := by
  cases x <;> rfl

theorem flatMap_onOk (x : Except ε α) (f : α → List γ) (g : γ → List δ) :
    (onOk x f).flatMap g = onOk x fun a => (f a).flatMap g := by
  cases x <;> rfl

/-- The items up to the first one that fails, and with it. -/
def reached (f : α → Except ε β) : List α → List α
  | [] => []
  | a :: as => a :: onOk (f a) fun _ => reached f as

theorem reached_eq_self {f : α → Except ε β} {as : List α} {bs : List β}
    (h : List.Forall₂ (fun a b => f a = .ok b) as bs) : reached f as = as := by
  induction h with
  | nil => rfl
  | cons hab _ ih => rw [reached, hab, onOk_ok, ih]

namespace Reading

/-! ### Mentions of steps -/

@[simp] theorem mentions_of (x : Except ε α) : (of x).mentions = [] := rfl

@[simp] theorem mentions_fail (e : ε) : (fail e : Reading ε α).mentions = [] := rfl

@[simp] theorem mentions_pure (a : α) : (pure a : Reading ε α).mentions = [] := rfl

@[simp] theorem mentions_mention (m : Mention) :
    (mention m : Reading ε Unit).mentions = [m] := rfl

theorem mentions_bind (r : Reading ε α) (f : α → Reading ε β) :
    (r >>= f).mentions = r.mentions ++ onOk r.outcome fun a => (f a).mentions := by
  show (andThen r f).mentions = _
  unfold andThen
  cases r.outcome with
  | error e => simp
  | ok a => rfl

theorem mentions_mapM (f : α → Reading ε β) (as : List α) :
    (as.mapM f).mentions =
      (reached (fun a => (f a).outcome) as).flatMap fun a => (f a).mentions := by
  induction as with
  | nil => rfl
  | cons a as ih =>
    rw [List.mapM_cons, mentions_bind, reached, List.flatMap_cons, flatMap_onOk]
    congr 2
    funext b
    rw [mentions_bind, ih]
    simp

/-- A list that is read mentions what its results do. -/
theorem mentions_mapM_of_forall₂ {f : α → Reading ε β} {view : β → List Mention}
    (hview : ∀ a b, (f a).outcome = .ok b → (f a).mentions = view b) {as : List α} {bs : List β}
    (h : List.Forall₂ (fun a b => (f a).outcome = .ok b) as bs) :
    (as.mapM f).mentions = bs.flatMap view := by
  rw [mentions_mapM, reached_eq_self h]
  induction h with
  | nil => rfl
  | cons hab _ ih => rw [List.flatMap_cons, List.flatMap_cons, hview _ _ hab, ih]

end Reading

end MemberEncoding
