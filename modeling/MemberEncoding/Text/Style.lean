/-!
# MemberEncoding.Text.Style

**Style sequences**, by which terminals are told to change how they show a text: an escape, an
opening bracket, parameters, and a letter. What does not go to a terminal is written without them.
-/

namespace MemberEncoding.Text

/-- The characters between the bracket and the letter of a style sequence. -/
def isStyleParameter (c : Char) : Bool := c.isDigit || c == ';' || c == '?'

/-- The characters after a style sequence, if there is one in front. -/
def afterStyle? : List Char → Option (List Char)
  | '\x1b' :: '[' :: cs =>
    match cs.dropWhile isStyleParameter with
    | c :: rest => if c.isAlpha then some rest else none
    | [] => none
  | _ => none

/-- Leaves `skip` characters out, and then the style sequences. -/
def plainFrom (skip : Nat) : List Char → List Char
  | [] => []
  | c :: cs =>
    match skip with
    | skip + 1 => plainFrom skip cs
    | 0 =>
      match afterStyle? (c :: cs) with
      | some rest => plainFrom (cs.length - rest.length) cs
      | none => c :: plainFrom 0 cs

theorem afterStyle?_eq_none {c : Char} {cs : List Char} (h : c ≠ '\x1b') :
    afterStyle? (c :: cs) = none := by
  unfold afterStyle?
  split
  · rename_i heq
    cases heq
    exact absurd rfl h
  · rfl

/-- Every style sequence starts with an escape, so characters without one stay as they are. -/
theorem plainFrom_of_not_mem {cs : List Char} (h : '\x1b' ∉ cs) : plainFrom 0 cs = cs := by
  induction cs with
  | nil => rfl
  | cons c cs ih =>
    have other : c ≠ '\x1b' := fun e => h (e ▸ List.mem_cons_self)
    have rest : '\x1b' ∉ cs := fun m => h (List.mem_cons_of_mem c m)
    simp only [plainFrom, afterStyle?_eq_none other, ih rest]

/-- A text without style sequences. -/
def plain (s : String) : String := String.ofList (plainFrom 0 s.toList)

end MemberEncoding.Text
