import MemberEncoding.Body.Term

/-!
# MemberEncoding.Body.OneLine

**One-line compaction.** Blank terms at both ends of a body go, and every run of blank terms inside
becomes one space term; the other terms stay as they are (`solid_oneLiner`).
-/

namespace MemberEncoding.Body

/-- Puts a term in front of a body in which every run of blanks is already one space and which
does not end in one. A blank leaves no trace before the end and merges with a blank that follows. -/
def glue (t : Term) : List Term → List Term
  | [] => if t.isBlank then [] else [t]
  | u :: ts =>
    if t.isBlank then
      if u.isBlank then u :: ts else .space :: u :: ts
    else t :: u :: ts

/-- A body compacted to one line. -/
def oneLiner (ts : List Term) : List Term :=
  (ts.foldr glue []).dropWhile Term.isBlank

/-- The terms of a body that are not blank. -/
def solid (ts : List Term) : List Term :=
  ts.filter fun t => !t.isBlank

theorem glue_of_not_isBlank {t : Term} (h : t.isBlank = false) (ts : List Term) :
    glue t ts = t :: ts := by
  cases ts <;> simp [glue, h]

theorem solid_glue (t : Term) (ts : List Term) : solid (glue t ts) = solid (t :: ts) := by
  cases ts with
  | nil => cases h : t.isBlank <;> simp [glue, solid, h]
  | cons u ts => cases h : t.isBlank <;> cases hu : u.isBlank <;> simp [glue, solid, h, hu]

theorem solid_foldr_glue (ts : List Term) : solid (ts.foldr glue []) = solid ts := by
  induction ts with
  | nil => rfl
  | cons t ts ih =>
    rw [List.foldr_cons, solid_glue]
    simp only [solid, List.filter_cons] at ih ⊢
    rw [ih]

theorem solid_dropWhile (ts : List Term) : solid (ts.dropWhile Term.isBlank) = solid ts := by
  induction ts with
  | nil => rfl
  | cons t ts ih => cases h : t.isBlank <;> simp_all [solid]

/-- Compaction keeps the terms that are not blank. -/
theorem solid_oneLiner (ts : List Term) : solid (oneLiner ts) = solid ts := by
  rw [oneLiner, solid_dropWhile, solid_foldr_glue]

end MemberEncoding.Body
