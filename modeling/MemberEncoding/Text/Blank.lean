/-!
# MemberEncoding.Text.Blank

**Blank characters**, and the two ways short forms are cut up: trimming blanks off both ends, and
cutting at the first occurrence of a delimiter.

Everything works on `List Char`, where the laws are stated; `trim` and `cutFirst` are the same
operations on `String`.
-/

namespace MemberEncoding.Text

/-- A blank character: the controls from tab to carriage return, the four information separators,
the space, and the spaces and line separators of Unicode. -/
def isBlank (c : Char) : Bool :=
  let n := c.toNat
  (0x09 ≤ n && n ≤ 0x0D) || (0x1C ≤ n && n ≤ 0x20) || n == 0x85 || n == 0xA0 || n == 0x1680
    || (0x2000 ≤ n && n ≤ 0x200A) || n == 0x2028 || n == 0x2029 || n == 0x202F || n == 0x205F
    || n == 0x3000

/-- Drops the blanks at both ends. -/
def trimChars (cs : List Char) : List Char :=
  ((cs.dropWhile isBlank).reverse.dropWhile isBlank).reverse

/-- Drops the blanks at both ends of a text. -/
def trim (s : String) : String :=
  String.ofList (trimChars s.toList)

/-- Is every character of the text blank? -/
def allBlank (s : String) : Bool :=
  s.toList.all isBlank

/-- The characters before the first `d`, and those after it if `d` occurs. -/
def cutCharsFirst (d : Char) (cs : List Char) : List Char × Option (List Char) :=
  match cs.dropWhile (· != d) with
  | [] => (cs, none)
  | _ :: tail => (cs.takeWhile (· != d), some tail)

theorem cutCharsFirst_of_not_mem {d : Char} {cs : List Char} (h : d ∉ cs) :
    cutCharsFirst d cs = (cs, none) := by
  have hp : ∀ c ∈ cs, (c != d) = true := fun c hc => bne_iff_ne.mpr fun e => h (e ▸ hc)
  have nothing : (cs ++ []).dropWhile (· != d) = [] := List.dropWhile_append_of_pos hp
  rw [List.append_nil] at nothing
  rw [cutCharsFirst, nothing]

theorem cutCharsFirst_append {d : Char} {head : List Char} (h : d ∉ head) (tail : List Char) :
    cutCharsFirst d (head ++ d :: tail) = (head, some tail) := by
  have hp : ∀ c ∈ head, (c != d) = true := fun c hc => bne_iff_ne.mpr fun e => h (e ▸ hc)
  rw [cutCharsFirst, List.dropWhile_append_of_pos hp, List.takeWhile_append_of_pos hp]
  simp

/-- What is cut was joined by the delimiter. -/
theorem eq_append_of_cutCharsFirst {d : Char} {cs head tail : List Char}
    (h : cutCharsFirst d cs = (head, some tail)) : cs = head ++ d :: tail := by
  by_cases hd : d ∈ cs
  · obtain ⟨before, after, rfl, hbefore⟩ := List.eq_append_cons_of_mem hd
    rw [cutCharsFirst_append hbefore] at h
    cases h
    rfl
  · rw [cutCharsFirst_of_not_mem hd] at h
    cases h

/-- The text before the first `d`, and the text after it if `d` occurs; both are trimmed. -/
def cutFirst (d : Char) (s : String) : String × Option String :=
  let (head, tail) := cutCharsFirst d s.toList
  (String.ofList (trimChars head), tail.map fun cs => String.ofList (trimChars cs))

/-- The trimmed texts between the occurrences of `d`; always one more than `d` occurs. -/
def cutAll (d : Char) (s : String) : List String :=
  (s.toList.splitOn d).map fun cs => String.ofList (trimChars cs)

end MemberEncoding.Text
