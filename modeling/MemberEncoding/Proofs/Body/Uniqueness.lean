import Mathlib.Data.List.Chain
import MemberEncoding.Body.Compaction
import MemberEncoding.Proofs.Body.Compaction

/-!
# MemberEncoding.Proofs.Body.Uniqueness

**A body has one compaction** (`oneLiner_unique`). What a compaction keeps is the outline of a body,
the terms that are not blank and between which of them blanks stand; and a tidy body is laid out
from its outline in one way.

So all is told by outlines. The one line of a body is its outline laid out (`oneLiner_eq_layOut`),
it has the outline of the body, and bodies have the same outline just when they differ in blanks
only (`outline_eq_iff_differInBlanks`).
-/

namespace MemberEncoding.Body

/-! ### Outlines -/

/-- Says of the first term whether a blank stands before it. -/
def setGap (gap : Bool) (ps : List (Bool × Term)) : List (Bool × Term) :=
  ps.modifyHead fun p => (gap, p.2)

/-- The terms that are not blank, each with whether a blank stands between it and the one before. -/
def outline (ts : List Term) : List (Bool × Term) := setGap false (spaced false ts)

/-- Writes down the terms, with a space before those that have a blank before them. -/
def layOut : List (Bool × Term) → List Term
  | [] => []
  | (gap, t) :: ps => if gap then .space :: t :: layOut ps else t :: layOut ps

theorem spaced_of_isBlank {t : Term} (h : t.isBlank = true) (gap : Bool) (ts : List Term) :
    spaced gap (t :: ts) = spaced true ts := if_pos h

theorem spaced_of_not_isBlank {t : Term} (h : t.isBlank = false) (gap : Bool) (ts : List Term) :
    spaced gap (t :: ts) = (gap, t) :: spaced false ts := if_neg (by simp [h])

@[simp] theorem setGap_setGap (gap gap' : Bool) (ps : List (Bool × Term)) :
    setGap gap (setGap gap' ps) = setGap gap ps := by
  cases ps <;> rfl

/-- Blanks before a body show at its first term only. -/
theorem spaced_true (ts : List Term) : spaced true ts = setGap true (spaced false ts) := by
  induction ts with
  | nil => rfl
  | cons t ts ih =>
    cases h : t.isBlank with
    | false =>
      rw [spaced_of_not_isBlank h, spaced_of_not_isBlank h]
      rfl
    | true => rw [spaced_of_isBlank h, spaced_of_isBlank h, ih, setGap_setGap]

/-- The outline is made of the terms that are not blank and the gaps between them. -/
theorem outline_eq_zip (ts : List Term) : outline ts = (false :: gaps ts).zip (solid ts) := by
  rw [outline, gaps, ← spaced_map_snd false]
  cases spaced false ts with
  | nil => rfl
  | cons p ps =>
    have hps : (ps.map (·.1)).zip (ps.map (·.2)) = ps := (List.zip_of_prod rfl rfl).symm
    show (false, p.2) :: ps = (false, p.2) :: (ps.map (·.1)).zip (ps.map (·.2))
    rw [hps]

theorem map_snd_outline (ts : List Term) : (outline ts).map (·.2) = solid ts := by
  rw [outline, ← spaced_map_snd false]
  cases spaced false ts <;> rfl

theorem tail_map_fst_outline (ts : List Term) : ((outline ts).map (·.1)).tail = gaps ts := by
  rw [outline, gaps]
  cases spaced false ts <;> rfl

/-- Bodies have the same outline if they have the same terms that are not blank, and blanks between
the same of them. -/
theorem outline_eq_iff {ts us : List Term} :
    outline ts = outline us ↔ solid ts = solid us ∧ gaps ts = gaps us := by
  constructor
  · intro h
    rw [← map_snd_outline ts, ← map_snd_outline us, ← tail_map_fst_outline ts,
      ← tail_map_fst_outline us, h]
    exact ⟨rfl, rfl⟩
  · intro h
    rw [outline_eq_zip, outline_eq_zip, h.1, h.2]

/-! ### Laying out -/

/-- None of the terms is blank. -/
def AreSolid (ps : List (Bool × Term)) : Prop := ∀ p ∈ ps, p.2.isBlank = false

theorem areSolid_cons {gap : Bool} {t : Term} {ps : List (Bool × Term)} :
    AreSolid ((gap, t) :: ps) ↔ t.isBlank = false ∧ AreSolid ps := List.forall_mem_cons

theorem areSolid_spaced (gap : Bool) (ts : List Term) : AreSolid (spaced gap ts) := by
  induction ts generalizing gap with
  | nil => exact fun p hp => absurd hp List.not_mem_nil
  | cons t ts ih =>
    cases h : t.isBlank with
    | false =>
      rw [spaced_of_not_isBlank h]
      exact areSolid_cons.mpr ⟨h, ih false⟩
    | true =>
      rw [spaced_of_isBlank h]
      exact ih true

theorem AreSolid.setGap {ps : List (Bool × Term)} (h : AreSolid ps) (gap : Bool) :
    AreSolid (setGap gap ps) := by
  cases ps with
  | nil => exact h
  | cons p ps => exact areSolid_cons.mpr (areSolid_cons.mp h)

theorem areSolid_outline (ts : List Term) : AreSolid (outline ts) :=
  (areSolid_spaced false ts).setGap false

/-- What was laid out is found again. -/
theorem spaced_layOut {ps : List (Bool × Term)} (h : AreSolid ps) :
    spaced false (layOut ps) = ps := by
  induction ps with
  | nil => rfl
  | cons p ps ih =>
    obtain ⟨gap, t⟩ := p
    obtain ⟨ht, hps⟩ := areSolid_cons.mp h
    cases gap with
    | false =>
      show spaced false (t :: layOut ps) = _
      rw [spaced_of_not_isBlank ht, ih hps]
    | true =>
      show spaced false (.space :: t :: layOut ps) = _
      rw [spaced_of_isBlank Term.isBlank_space, spaced_of_not_isBlank ht, ih hps]

/-- A body that is laid out from an outline has this outline. -/
theorem outline_layOut_outline (ts : List Term) : outline (layOut (outline ts)) = outline ts := by
  rw [outline, spaced_layOut (areSolid_outline ts), outline, setGap_setGap]

/-- A blank before a body that is laid out leaves a space before its first term. -/
theorem glue_layOut {t : Term} (h : t.isBlank = true) {ps : List (Bool × Term)}
    (hps : AreSolid ps) : glue t (layOut ps) = layOut (setGap true ps) := by
  cases ps with
  | nil => exact glue_nil h
  | cons p ps =>
    obtain ⟨gap, u⟩ := p
    cases gap with
    | false => exact glue_cons h (areSolid_cons.mp hps).1 _
    | true => exact glue_space h _

/-- Compacting from the end lays out what is not blank, the first gap included. -/
theorem compacted_eq_layOut (ts : List Term) : compacted ts = layOut (spaced false ts) := by
  induction ts with
  | nil => rfl
  | cons t ts ih =>
    cases h : t.isBlank with
    | false =>
      rw [compacted_cons_of_not_isBlank h, ih, spaced_of_not_isBlank h]
      rfl
    | true =>
      rw [compacted_cons, ih, glue_layOut h (areSolid_spaced false ts), spaced_of_isBlank h,
        spaced_true]

theorem dropWhile_layOut {ps : List (Bool × Term)} (h : AreSolid ps) :
    (layOut ps).dropWhile Term.isBlank = layOut (setGap false ps) := by
  cases ps with
  | nil => rfl
  | cons p ps =>
    obtain ⟨gap, t⟩ := p
    have ht := (areSolid_cons.mp h).1
    have hneg : ¬ t.isBlank = true := by simp [ht]
    cases gap with
    | false => exact List.dropWhile_cons_of_neg hneg
    | true =>
      show (Term.space :: t :: layOut ps).dropWhile Term.isBlank = t :: layOut ps
      rw [List.dropWhile_cons_of_pos Term.isBlank_space, List.dropWhile_cons_of_neg hneg]

/-- A body on one line is its outline laid out. -/
theorem oneLiner_eq_layOut (ts : List Term) : oneLiner ts = layOut (outline ts) := by
  have honeLiner : oneLiner ts = (compacted ts).dropWhile Term.isBlank := rfl
  rw [honeLiner, compacted_eq_layOut, dropWhile_layOut (areSolid_spaced false ts), outline]

theorem outline_oneLiner (ts : List Term) : outline (oneLiner ts) = outline ts := by
  rw [oneLiner_eq_layOut, outline_layOut_outline]

/-! ### What is laid out -/

/-- The blanks of a body are single spaces, none follows another, and none is at the end. -/
structure IsTidy (ts : List Term) : Prop where
  blank_eq_space : ∀ t ∈ ts, t.isBlank = true → t = .space
  last_solid : ∀ t ∈ ts.getLast?, t.isBlank = false
  apart : ts.IsChain fun t u => t.isBlank = false ∨ u.isBlank = false

theorem IsTidy.tail {t : Term} {ts : List Term} (h : IsTidy (t :: ts)) : IsTidy ts where
  blank_eq_space u hu := h.blank_eq_space u (List.mem_cons_of_mem t hu)
  last_solid u hu := by
    refine h.last_solid u ?_
    cases ts with
    | nil => cases hu
    | cons v vs => exact hu
  apart := h.apart.tail

theorem isTidy_nil : IsTidy [] where
  blank_eq_space t ht := absurd ht List.not_mem_nil
  last_solid t ht := by cases ht
  apart := .nil

theorem IsTidy.cons {t : Term} {ts : List Term} (ht : t.isBlank = false) (h : IsTidy ts) :
    IsTidy (t :: ts) where
  blank_eq_space u hu hblank := by
    rcases List.mem_cons.mp hu with rfl | hu
    · rw [ht] at hblank
      cases hblank
    · exact h.blank_eq_space u hu hblank
  last_solid u hu := by
    cases ts with
    | nil =>
      cases hu
      exact ht
    | cons v vs => exact h.last_solid u hu
  apart := List.isChain_cons.mpr ⟨fun _ _ => .inl ht, h.apart⟩

theorem IsTidy.space_cons {t : Term} {ts : List Term} (ht : t.isBlank = false)
    (h : IsTidy (t :: ts)) : IsTidy (.space :: t :: ts) where
  blank_eq_space u hu hblank := by
    rcases List.mem_cons.mp hu with rfl | hu
    · rfl
    · exact h.blank_eq_space u hu hblank
  last_solid := h.last_solid
  apart := List.isChain_cons_cons.mpr ⟨.inr ht, h.apart⟩

theorem isTidy_layOut {ps : List (Bool × Term)} (h : AreSolid ps) : IsTidy (layOut ps) := by
  induction ps with
  | nil => exact isTidy_nil
  | cons p ps ih =>
    obtain ⟨gap, t⟩ := p
    obtain ⟨ht, hps⟩ := areSolid_cons.mp h
    have htidy := (ih hps).cons ht
    cases gap with
    | false => exact htidy
    | true => exact htidy.space_cons ht

/-- What stands behind a blank in a tidy body. -/
theorem IsTidy.exists_cons {t : Term} {ts : List Term} (h : IsTidy (t :: ts))
    (ht : t.isBlank = true) : t = .space ∧ ∃ u us, ts = u :: us ∧ u.isBlank = false := by
  refine ⟨h.blank_eq_space t (List.mem_cons_self ..) ht, ?_⟩
  cases ts with
  | nil =>
    have hlast := h.last_solid t rfl
    rw [ht] at hlast
    cases hlast
  | cons u us =>
    have hapart := h.apart
    rcases (List.isChain_cons_cons.mp hapart).1 with hsolid | hsolid
    · rw [ht] at hsolid
      cases hsolid
    · exact ⟨u, us, rfl, hsolid⟩

/-- A tidy body is laid out. -/
theorem IsTidy.layOut_spaced {ts : List Term} (h : IsTidy ts) : layOut (spaced false ts) = ts := by
  induction ts with
  | nil => rfl
  | cons t ts ih =>
    cases ht : t.isBlank with
    | false =>
      rw [spaced_of_not_isBlank ht]
      show t :: layOut (spaced false ts) = _
      rw [ih h.tail]
    | true =>
      obtain ⟨rfl, u, us, rfl, hu⟩ := h.exists_cons ht
      have htail := ih h.tail
      rw [spaced_of_not_isBlank hu] at htail
      rw [spaced_of_isBlank ht, spaced_of_not_isBlank hu]
      show Term.space :: layOut ((false, u) :: spaced false us) = _
      rw [htail]

/-- A body is a compaction of another if it has the same outline, is tidy, and does not start with
a blank. -/
theorem isCompaction_iff_tidy {ts short : List Term} :
    IsCompaction ts short ↔
      outline short = outline ts ∧ IsTidy short ∧ ∀ t ∈ short.head?, t.isBlank = false := by
  rw [outline_eq_iff]
  constructor
  · intro h
    refine ⟨⟨h.solid_eq, h.gaps_eq⟩, ⟨h.blank_eq_space, h.last_solid, ?_⟩, h.head_solid⟩
    exact List.isChain_iff_forall_rel_of_append_cons_cons.mpr fun t u before after hsplit =>
      h.no_two_blank before t u after hsplit
  · intro h
    obtain ⟨⟨hsolid, hgaps⟩, htidy, hhead⟩ := h
    refine ⟨hsolid, hgaps, htidy.blank_eq_space, hhead, htidy.last_solid, ?_⟩
    intro before t u after hsplit
    exact List.isChain_iff_forall_rel_of_append_cons_cons.mp htidy.apart hsplit

/-- A body that does not start with a blank has its first term without a gap. -/
theorem outline_eq_spaced {ts : List Term} (h : ∀ t ∈ ts.head?, t.isBlank = false) :
    outline ts = spaced false ts := by
  cases ts with
  | nil => rfl
  | cons t ts =>
    rw [outline, spaced_of_not_isBlank (h t rfl)]
    rfl

/-- There is no compaction but the one line. -/
theorem isCompaction_iff_eq_oneLiner {ts short : List Term} :
    IsCompaction ts short ↔ short = oneLiner ts := by
  rw [isCompaction_iff_tidy]
  constructor
  · intro h
    obtain ⟨houtline, htidy, hhead⟩ := h
    rw [oneLiner_eq_layOut, ← houtline, outline_eq_spaced hhead, htidy.layOut_spaced]
  · rintro rfl
    refine ⟨outline_oneLiner ts, ?_, ?_⟩
    · rw [oneLiner_eq_layOut]
      exact isTidy_layOut (areSolid_outline ts)
    · intro t ht
      rcases oneLiner_cases ts with hnil | ⟨u, more, hu, -, hcons⟩
      · rw [hnil] at ht
        cases ht
      · rw [hcons] at ht
        cases ht
        exact hu

/-- Bodies are the same on one line if they have the same outline. -/
theorem oneLiner_eq_iff_outline {ts us : List Term} :
    oneLiner ts = oneLiner us ↔ outline ts = outline us := by
  constructor
  · intro h
    rw [← outline_oneLiner ts, h, outline_oneLiner]
  · intro h
    rw [oneLiner_eq_layOut, oneLiner_eq_layOut, h]

/-! ### Bodies that differ in blanks only -/

/-- All of the terms are blank. -/
def AreBlank (ts : List Term) : Prop := ∀ t ∈ ts, t.isBlank = true

/-- Two bodies differ in the blanks at the end, and in what the runs of blanks inside are made
of. -/
inductive AlikeBeforeEnd : List Term → List Term → Prop
  /-- Any blanks at the end. -/
  | trail {trail trail'} : AreBlank trail → AreBlank trail' → AlikeBeforeEnd trail trail'
  /-- The same term. -/
  | term {t ts us} : AlikeBeforeEnd ts us → AlikeBeforeEnd (t :: ts) (t :: us)
  /-- Some blanks in both. -/
  | run {run run' ts us} : run ≠ [] → run' ≠ [] → AreBlank run → AreBlank run' →
      AlikeBeforeEnd ts us → AlikeBeforeEnd (run ++ ts) (run' ++ us)

/-- Two bodies differ in the blanks at their ends, and in what their inner runs of blanks are made
of. -/
def DifferInBlanks (ts us : List Term) : Prop :=
  ∃ lead lead' ts' us', ts = lead ++ ts' ∧ us = lead' ++ us' ∧ AreBlank lead ∧ AreBlank lead' ∧
    AlikeBeforeEnd ts' us'

theorem spaced_of_areBlank {ts : List Term} (h : AreBlank ts) (gap : Bool) :
    spaced gap ts = [] := by
  induction ts generalizing gap with
  | nil => rfl
  | cons t ts ih =>
    obtain ⟨ht, hts⟩ := List.forall_mem_cons.mp h
    rw [spaced_of_isBlank ht, ih hts]

/-- Some blanks before a body leave the same gap as one. -/
theorem spaced_run_append {run : List Term} (h : AreBlank run) (hne : run ≠ []) (gap : Bool)
    (ts : List Term) : spaced gap (run ++ ts) = spaced true ts := by
  induction run generalizing gap with
  | nil => exact absurd rfl hne
  | cons t run ih =>
    obtain ⟨ht, hrun⟩ := List.forall_mem_cons.mp h
    rw [List.cons_append, spaced_of_isBlank ht]
    by_cases hnil : run = []
    · rw [hnil, List.nil_append]
    · exact ih hrun hnil true

theorem outline_eq_setGap_spaced (gap : Bool) (ts : List Term) :
    outline ts = setGap false (spaced gap ts) := by
  cases gap with
  | false => rfl
  | true => rw [spaced_true, setGap_setGap, outline]

theorem outline_append_of_areBlank {lead : List Term} (h : AreBlank lead) (ts : List Term) :
    outline (lead ++ ts) = outline ts := by
  by_cases hnil : lead = []
  · rw [hnil, List.nil_append]
  · rw [outline, spaced_run_append h hnil, ← outline_eq_setGap_spaced]

theorem AlikeBeforeEnd.spaced_eq {ts us : List Term} (h : AlikeBeforeEnd ts us) (gap : Bool) :
    spaced gap ts = spaced gap us := by
  induction h generalizing gap with
  | trail h h' => rw [spaced_of_areBlank h, spaced_of_areBlank h']
  | term _ ih => simp only [spaced, ih]
  | run hne hne' h h' _ ih =>
    rw [spaced_run_append h hne, spaced_run_append h' hne', ih true]

theorem areBlank_of_spaced_eq_nil {gap : Bool} {ts : List Term} (h : spaced gap ts = []) :
    AreBlank ts := by
  induction ts generalizing gap with
  | nil => exact fun t ht => absurd ht List.not_mem_nil
  | cons t ts ih =>
    cases ht : t.isBlank with
    | false =>
      rw [spaced_of_not_isBlank ht] at h
      cases h
    | true =>
      rw [spaced_of_isBlank ht] at h
      exact List.forall_mem_cons.mpr ⟨ht, ih h⟩

/-- The first term that is not blank comes behind blanks, and there are none if it has no gap. -/
theorem exists_of_spaced_eq_cons {ts : List Term} {gap : Bool} {t : Term} {ps : List (Bool × Term)}
    (h : spaced false ts = (gap, t) :: ps) :
    ∃ run rest, ts = run ++ t :: rest ∧ AreBlank run ∧ (run = [] ↔ gap = false) ∧
      spaced false rest = ps := by
  induction ts generalizing gap with
  | nil => cases h
  | cons u ts ih =>
    cases hu : u.isBlank with
    | false =>
      rw [spaced_of_not_isBlank hu] at h
      cases h
      exact ⟨[], ts, rfl, fun v hv => absurd hv List.not_mem_nil, iff_of_true rfl rfl, rfl⟩
    | true =>
      rw [spaced_of_isBlank hu, spaced_true] at h
      cases hts : spaced false ts with
      | nil =>
        rw [hts] at h
        cases h
      | cons p more =>
        rw [hts] at h
        cases h
        obtain ⟨run, rest, rfl, hrun, -, hrest⟩ := ih hts
        exact ⟨u :: run, rest, rfl, List.forall_mem_cons.mpr ⟨hu, hrun⟩, by simp, hrest⟩

/-- Bodies with the same terms that are not blank, and gaps before the same of them, are alike but
for their ends. -/
theorem alikeBeforeEnd_of_spaced_eq {ts us : List Term} (h : spaced false ts = spaced false us) :
    AlikeBeforeEnd ts us := by
  -- On the terms that are not blank: each comes behind a run of blanks in both bodies, or in none.
  generalize hus : spaced false us = ps at h
  induction ps generalizing ts us with
  | nil => exact .trail (areBlank_of_spaced_eq_nil h) (areBlank_of_spaced_eq_nil hus)
  | cons p ps ih =>
    obtain ⟨run, rest, rfl, hrun, hgap, hrest⟩ := exists_of_spaced_eq_cons h
    obtain ⟨run', rest', rfl, hrun', hgap', hrest'⟩ := exists_of_spaced_eq_cons hus
    have halike := (ih hrest' hrest).term (t := p.2)
    by_cases hnil : run = []
    · have hnil' := hgap'.mpr (hgap.mp hnil)
      rw [hnil, hnil']
      exact halike
    · exact .run hnil (fun hnil' => hnil (hgap.mpr (hgap'.mp hnil'))) hrun hrun' halike

/-- Behind the blanks that a body starts with, the gaps are those of its outline. -/
theorem exists_lead (ts : List Term) :
    ∃ lead rest, ts = lead ++ rest ∧ AreBlank lead ∧ spaced false rest = outline ts := by
  have hlead : AreBlank (ts.takeWhile Term.isBlank) := fun t ht => List.mem_takeWhile_imp ht
  have hhead : ∀ t ∈ (ts.dropWhile Term.isBlank).head?, t.isBlank = false := by
    intro t ht
    have hnot := List.head?_dropWhile_not Term.isBlank ts
    rw [Option.mem_def.mp ht] at hnot
    simpa using hnot
  refine ⟨_, _, (List.takeWhile_append_dropWhile).symm, hlead, ?_⟩
  rw [← outline_eq_spaced hhead, ← outline_append_of_areBlank hlead,
    List.takeWhile_append_dropWhile]

/-- Bodies have the same outline if they differ in blanks only. -/
theorem outline_eq_iff_differInBlanks {ts us : List Term} :
    outline ts = outline us ↔ DifferInBlanks ts us := by
  constructor
  · intro h
    obtain ⟨lead, rest, hts, hlead, hrest⟩ := exists_lead ts
    obtain ⟨lead', rest', hus, hlead', hrest'⟩ := exists_lead us
    refine ⟨lead, lead', rest, rest', hts, hus, hlead, hlead', ?_⟩
    exact alikeBeforeEnd_of_spaced_eq (hrest.trans (h.trans hrest'.symm))
  · intro h
    obtain ⟨lead, lead', ts', us', rfl, rfl, hlead, hlead', halike⟩ := h
    rw [outline_append_of_areBlank hlead, outline_append_of_areBlank hlead', outline, outline,
      halike.spaced_eq]

/-- **A body has one compaction,** and that is the one line. A second run changes nothing, and two
bodies are the same on one line just when they differ in blanks only. -/
theorem oneLiner_unique (ts : List Term) :
    (∀ short, IsCompaction ts short ↔ short = oneLiner ts) ∧
    oneLiner (oneLiner ts) = oneLiner ts ∧
    ∀ us, oneLiner ts = oneLiner us ↔ DifferInBlanks ts us := by
  refine ⟨fun short => isCompaction_iff_eq_oneLiner, ?_, fun us => ?_⟩
  · rw [oneLiner_eq_iff_outline, outline_oneLiner]
  · rw [oneLiner_eq_iff_outline, outline_eq_iff_differInBlanks]

end MemberEncoding.Body
