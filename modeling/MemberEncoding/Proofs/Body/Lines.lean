import MemberEncoding.Proofs.Body.Uniqueness

/-!
# MemberEncoding.Proofs.Body.Lines

**A body is read line by line** (`terms_append_feed_append`). A line break ends every term before
it, an open literal too, and what comes behind the break is read as it would be alone. Only two
characters at the end of a line have a hold on the break: a backslash, which may protect it in a
literal, and a carriage return, to which a line feed belongs.

So how the lines of a body end does not show once the body is compacted. With a carriage return
before every line feed it has the same terms but for the breaks (`alikeBeforeEnd_addReturns`).
-/

namespace MemberEncoding.Body

/-! ### Breaks behind a text -/

/-- Behind these characters the break is a term of its own: no backslash protects it, and a line
feed belongs to no carriage return. -/
def StandsBehind (b : Term) (cs : List Char) : Prop :=
  cs.getLast? ≠ some '\\' ∧ (b.text = "\n" → cs.getLast? ≠ some '\r')

theorem StandsBehind.of_append {b : Term} {cs ds : List Char} (h : StandsBehind b (cs ++ ds)) :
    StandsBehind b ds := by
  have hlast : ∀ c, ds.getLast? = some c → (cs ++ ds).getLast? = some c := by
    intro c hc
    rw [List.getLast?_append, hc, Option.some_or]
  exact ⟨fun hback => h.1 (hlast _ hback), fun hb hreturn => h.2 hb (hlast _ hreturn)⟩

/-- No word goes on over a line break. -/
theorem extendsWord_of_isBreak {c : Char} (h : isBreak c = true) (word : List Char) :
    extendsWord word c = false := by
  have hc : c = '\r' ∨ c = '\n' := by simpa [isBreak] using h
  cases word with
  | nil => rfl
  | cons d ds =>
    rw [extendsWord]
    rcases hc with rfl | rfl <;> (split <;> rfl)

theorem isBreak_of_mem_head? {b : Term} (hb : b.kind = .newline)
    (hshape : b.kind.Shape b.text.toList) {us : List Term} :
    ∀ c ∈ (charsOf (b :: us)).head?, isBreak c = true := by
  obtain ⟨d, body, htext, hkind⟩ := hshape.exists_cons
  intro c hc
  rw [charsOf_cons, htext] at hc
  cases hc
  exact kindOf_eq_newline_iff.mp (hkind.symm.trans hb)

/-- A term that cannot be longer cannot be so with a break behind the terms after it. -/
theorem Term.IsMaximal.append_break {t b : Term} {next us : List Term} (h : t.IsMaximal next)
    (hb : b.kind = .newline) (hshape : b.kind.Shape b.text.toList)
    (hstands : StandsBehind b (charsOf (t :: next))) : t.IsMaximal (next ++ b :: us) := by
  obtain ⟨hgap, hreturn, hword, hopen⟩ := h
  cases next with
  | nil =>
    refine ⟨?_, ?_, ?_, fun _ => .inr (.inl ⟨b, rfl, hb⟩)⟩
    · rintro - u hu
      cases hu
      simp [hb]
    · intro htext u hu hfeed
      cases hu
      exact hstands.2 hfeed (by simp [charsOf, htext])
    · intro _ c hc
      exact extendsWord_of_isBreak (isBreak_of_mem_head? hb hshape c hc) _
  | cons u next =>
    refine ⟨hgap, hreturn, ?_, ?_⟩
    · intro hk c hc
      have happend : charsOf (u :: next ++ b :: us) = charsOf (u :: next) ++ charsOf (b :: us) :=
        List.flatMap_append
      rw [happend, List.head?_append, Option.mem_def, Option.or_eq_some_iff] at hc
      rcases hc with hc | ⟨-, hc⟩
      · exact hword hk c hc
      · exact extendsWord_of_isBreak (isBreak_of_mem_head? hb hshape c hc) _
    · intro hliteral
      rcases hopen hliteral with hnil | hnewline | ⟨v, hv, hback⟩
      · cases hnil
      · exact .inr (.inl hnewline)
      · -- A backslash that stands alone behind a literal would be the last character.
        cases hv
        exact absurd (by simp [charsOf, hback]) hstands.1

/-- Two segmentations make one with a break between them. -/
theorem IsSegmentation.append_break {cs ds : List Char} {ts us : List Term} {b : Term}
    (h : IsSegmentation cs ts) (h' : IsSegmentation ds us) (hb : b.kind = .newline)
    (hshape : b.kind.Shape b.text.toList) (hmaximal : b.IsMaximal us)
    (hstands : StandsBehind b cs) :
    IsSegmentation (cs ++ (b.text.toList ++ ds)) (ts ++ b :: us) := by
  induction ts generalizing cs with
  | nil =>
    obtain rfl : [] = cs := h.joins
    exact isSegmentation_cons.mpr ⟨hshape, hmaximal, ds, rfl, h'⟩
  | cons t ts ih =>
    obtain ⟨htshape, htmaximal, rest, rfl, hrest⟩ := isSegmentation_cons.mp h
    have hchars : charsOf (t :: ts) = t.text.toList ++ rest := by
      rw [charsOf_cons, hrest.joins]
    refine isSegmentation_cons.mpr ⟨htshape, ?_, rest ++ (b.text.toList ++ ds), ?_, ?_⟩
    · exact htmaximal.append_break hb hshape (hchars ▸ hstands)
    · rw [List.append_assoc]
    · exact ih hrest hstands.of_append

/-- The break of a line feed. -/
def Term.feed : Term := ⟨.newline, "\n"⟩

/-- The break of a carriage return and a line feed. -/
def Term.returnFeed : Term := ⟨.newline, "\r\n"⟩

/-- What stands before a break and what stands behind it is read apart. -/
theorem termsOf_append_break_append {b : Term} (hb : b = .feed ∨ b = .returnFeed)
    {cs : List Char} (h : StandsBehind b cs) (ds : List Char) :
    termsOf (cs ++ (b.text.toList ++ ds)) = termsOf cs ++ b :: termsOf ds := by
  have hkind : b.kind = .newline := by
    rcases hb with rfl | rfl <;> rfl
  have hshape : b.kind.Shape b.text.toList := by
    rcases hb with rfl | rfl
    · exact .inr (.inr (by decide))
    · exact .inl (by decide)
  have hmaximal : b.IsMaximal (termsOf ds) := by
    have hreturn : b.text ≠ "\r" := by
      rcases hb with rfl | rfl <;> decide
    simp [Term.IsMaximal, Term.IsOpen, hkind, hreturn]
  have hcs := isSegmentation_termsOf cs
  have hds := isSegmentation_termsOf ds
  exact (hcs.append_break hds hkind hshape hmaximal h).termsOf_eq

/-- **A body is read line by line.** Behind a text that ends neither in a backslash nor in a
carriage return, a line feed is a term of its own, and the lines before and after it are read as
they are alone. -/
theorem terms_append_feed_append (x y : String) (hback : x.toList.getLast? ≠ some '\\')
    (hreturn : x.toList.getLast? ≠ some '\r') :
    terms (x ++ "\n" ++ y) = terms x ++ ⟨.newline, "\n"⟩ :: terms y := by
  have hchars : (x ++ "\n" ++ y).toList = x.toList ++ (Term.feed.text.toList ++ y.toList) := by
    simp [Term.feed]
  rw [terms, hchars]
  exact termsOf_append_break_append (.inl rfl) ⟨hback, fun _ => hreturn⟩ y.toList

/-- The apostrophe in the comment opens a literal, and the next line has one of its own. -/
theorem terms_apostrophe_above_literal :
    let x := "// don't"
    let y := "f('x')"
    (x.toList.getLast? ≠ some '\\' ∧ x.toList.getLast? ≠ some '\r') ∧
      terms (x ++ "\n" ++ y) =
        [⟨.other, "/"⟩, ⟨.other, "/"⟩, .space, ⟨.word, "don"⟩, ⟨.char, "'t"⟩, ⟨.newline, "\n"⟩,
          ⟨.word, "f"⟩, ⟨.delimiter, "("⟩, ⟨.char, "'x'"⟩, ⟨.delimiter, ")"⟩] := by
  intro x y
  have hback : x.toList.getLast? ≠ some '\\' := by decide
  have hreturn : x.toList.getLast? ≠ some '\r' := by decide
  have hx : terms x =
      [⟨.other, "/"⟩, ⟨.other, "/"⟩, .space, ⟨.word, "don"⟩, ⟨.char, "'t"⟩] := by
    decide +kernel
  have hy : terms y =
      [⟨.word, "f"⟩, ⟨.delimiter, "("⟩, ⟨.char, "'x'"⟩, ⟨.delimiter, ")"⟩] := by
    decide +kernel
  refine ⟨⟨hback, hreturn⟩, ?_⟩
  rw [terms_append_feed_append x y hback hreturn, hx, hy]
  rfl

/-! ### Line feeds with carriage returns -/

/-- The characters with a carriage return before every line feed. -/
def addReturns (cs : List Char) : List Char :=
  cs.flatMap fun c => if c = '\n' then ['\r', '\n'] else [c]

/-- The text with a carriage return before every line feed. -/
def withReturns (s : String) : String := String.ofList (addReturns s.toList)

theorem addReturns_of_not_mem {cs : List Char} (h : '\n' ∉ cs) : addReturns cs = cs := by
  induction cs with
  | nil => rfl
  | cons c cs ih =>
    have hc : c ≠ '\n' := fun e => h (e ▸ List.mem_cons_self)
    have hcs : '\n' ∉ cs := fun hmem => h (List.mem_cons_of_mem c hmem)
    show (if c = '\n' then ['\r', '\n'] else [c]) ++ addReturns cs = c :: cs
    rw [if_neg hc, ih hcs]
    rfl

theorem addReturns_line_append {line : List Char} (h : '\n' ∉ line) (rest : List Char) :
    addReturns (line ++ '\n' :: rest) = line ++ '\r' :: '\n' :: addReturns rest := by
  have happend : addReturns (line ++ '\n' :: rest) = addReturns line ++ addReturns ('\n' :: rest) :=
    List.flatMap_append
  rw [happend, addReturns_of_not_mem h]
  rfl

theorem AlikeBeforeEnd.append_left {ts us : List Term} (h : AlikeBeforeEnd ts us)
    (before : List Term) : AlikeBeforeEnd (before ++ ts) (before ++ us) := by
  induction before with
  | nil => exact h
  | cons t before ih => exact .term ih

theorem AlikeBeforeEnd.refl (ts : List Term) : AlikeBeforeEnd ts ts := by
  have hnil : AreBlank [] := fun t ht => absurd ht List.not_mem_nil
  simpa using (AlikeBeforeEnd.trail hnil hnil).append_left ts

/-- One line break in place of another makes no difference but in blanks. -/
theorem AlikeBeforeEnd.exchange {b b' : Term} (hb : b.isBlank = true) (hb' : b'.isBlank = true)
    {ts us : List Term} (h : AlikeBeforeEnd ts us) : AlikeBeforeEnd (b :: ts) (b' :: us) :=
  .run (List.cons_ne_nil b []) (List.cons_ne_nil b' []) (List.forall_mem_singleton.mpr hb)
    (List.forall_mem_singleton.mpr hb') h

/-- In a text without carriage returns, whose line feeds have no backslash before them, every break
is a term of its own behind a line. -/
theorem standsBehind_line {line rest : List Char} (hreturn : '\r' ∉ line ++ '\n' :: rest)
    (hback : ¬ ['\\', '\n'] <:+: line ++ '\n' :: rest) (b : Term) : StandsBehind b line := by
  constructor
  · intro hlast
    obtain ⟨front, rfl⟩ := List.getLast?_eq_some_iff.mp hlast
    exact hback ⟨front, rest, by simp⟩
  · intro _ hlast
    exact hreturn (List.mem_append_left _ (List.mem_of_getLast? hlast))

/-- With a carriage return before every line feed a text has the same terms but for the breaks. -/
theorem alikeBeforeEnd_addReturns {cs : List Char} (hreturn : '\r' ∉ cs)
    (hback : ¬ ['\\', '\n'] <:+: cs) : AlikeBeforeEnd (termsOf cs) (termsOf (addReturns cs)) := by
  -- The text is taken apart line by line, so the induction is on its length.
  induction hn : cs.length using Nat.strongRecOn generalizing cs with
  | ind n ih =>
    by_cases hfeed : '\n' ∈ cs
    · obtain ⟨line, rest, rfl, hline⟩ := List.eq_append_cons_of_mem hfeed
      have hless : rest.length < n := by
        rw [← hn, List.length_append, List.length_cons]
        omega
      have hreturn' : '\r' ∉ rest := fun h =>
        hreturn (List.mem_append_right line (List.mem_cons_of_mem _ h))
      have hback' : ¬ ['\\', '\n'] <:+: rest := fun h =>
        hback (h.trans ⟨line ++ ['\n'], [], by simp⟩)
      have hfeeds : termsOf (line ++ '\n' :: rest) = termsOf line ++ .feed :: termsOf rest :=
        termsOf_append_break_append (.inl rfl) (standsBehind_line hreturn hback _) rest
      have hreturns : termsOf (line ++ '\r' :: '\n' :: addReturns rest) =
          termsOf line ++ .returnFeed :: termsOf (addReturns rest) :=
        termsOf_append_break_append (.inr rfl) (standsBehind_line hreturn hback _) _
      rw [addReturns_line_append hline, hfeeds, hreturns]
      exact ((ih _ hless hreturn' hback' rfl).exchange rfl rfl).append_left (termsOf line)
    · rw [addReturns_of_not_mem hfeed]
      exact .refl _

/-- Compacted, a text with carriage returns before its line feeds is as it is without. -/
theorem oneLiner_terms_withReturns {s : String} (hreturn : '\r' ∉ s.toList)
    (hback : ¬ ['\\', '\n'] <:+: s.toList) :
    oneLiner (terms (withReturns s)) = oneLiner (terms s) := by
  have halike := alikeBeforeEnd_addReturns hreturn hback
  rw [oneLiner_eq_iff_outline, outline, outline, terms, terms, withReturns, String.toList_ofList,
    halike.spaced_eq]

end MemberEncoding.Body
