import Mathlib.Data.List.Induction
import MemberEncoding.Element.Draft
import MemberEncoding.Proofs.Reading
import MemberEncoding.Proofs.Tag.Names

/-!
# MemberEncoding.Proofs.Element.Attributes

**A draft is settled attribute by attribute** (`run_settles`). The steps that concern an attribute
say what is left of it after a run, and the steps in between do not matter. An attribute with a
single value has the one that is set last. A list holds what is set last and all that is added
later, and so do the tags as a set.

Each attribute is a view on drafts. What a step does to the view is its *effect*, and the effects of
a run act on the view in order (`run_shows`). All effects of a step are stated at once, as the draft
that it leads to (`advance_eq`), so that it touches no other attribute is a part of what is shown.
-/

namespace MemberEncoding

/-! ### Lists under construction -/

/-- What a step does to a list. -/
inductive Change (α : Type)
  /-- Replaces the list. -/
  | set (items : List α)
  /-- Adds to its end. -/
  | add (items : List α)

namespace Change

variable {α : Type} {held items : List α} {changes : List (Change α)}

/-- What is left of the items held. -/
def apply (held : List α) : Change α → List α
  | .set items => items
  | .add items => held ++ items

/-- What changes leave of the items held: the items set last, or else those held, and then all items
that are added later. -/
inductive Leaves (held : List α) : List (Change α) → List α → Prop
  /-- Nothing is set. -/
  | added (later : List (List α)) : Leaves held (later.map .add) (held ++ later.flatten)
  /-- The items are set, and nothing is set later. -/
  | set (before : List (Change α)) (items : List α) (later : List (List α)) :
      Leaves held (before ++ .set items :: later.map .add) (items ++ later.flatten)

theorem foldl_apply_add (held : List α) (later : List (List α)) :
    (later.map add).foldl apply held = held ++ later.flatten := by
  rw [List.foldl_map]
  show later.foldl (fun xs ys => xs ++ id ys) held = _
  rw [List.foldl_append_eq_append, List.map_id]

theorem Leaves.eq_foldl (h : Leaves held changes items) : items = changes.foldl apply held := by
  cases h with
  | added later => exact (foldl_apply_add held later).symm
  | set before items later =>
    rw [List.foldl_append, List.foldl_cons]
    exact (foldl_apply_add items later).symm

/-- One more change acts on what is left. -/
theorem Leaves.concat (h : Leaves held changes items) (c : Change α) :
    Leaves held (changes ++ [c]) (apply items c) := by
  cases c with
  | set new =>
    have hset : Leaves held (changes ++ .set new :: [].map .add) (new ++ [].flatten) :=
      .set changes new []
    simpa [apply] using hset
  | add new =>
    cases h with
    | added later =>
      have hadded : Leaves held ((later ++ [new]).map .add) (held ++ (later ++ [new]).flatten) :=
        .added (later ++ [new])
      simpa [apply] using hadded
    | set before start later =>
      have hset : Leaves held (before ++ .set start :: (later ++ [new]).map .add)
          (start ++ (later ++ [new]).flatten) := .set before start (later ++ [new])
      simpa [apply] using hset

/-- Changes leave what they make of the items one after the other. -/
theorem leaves_iff : Leaves held changes items ↔ items = changes.foldl apply held := by
  constructor
  · exact Leaves.eq_foldl
  · rintro rfl
    induction changes using List.reverseRecOn with
    | nil =>
      have hadded : Leaves held ([].map .add) (held ++ [].flatten) := .added []
      simpa using hadded
    | append_singleton changes c ih =>
      rw [List.foldl_append]
      exact ih.concat c

/-- Changes leave one thing only. -/
theorem Leaves.unique {items' : List α} (h : Leaves held changes items)
    (h' : Leaves held changes items') : items = items' :=
  h.eq_foldl.trans h'.eq_foldl.symm

end Change

/-! ### Tags under construction -/

namespace TagSet

/-- What a change makes of a set of tags. -/
def change (s : TagSet) : Change Tag → TagSet
  | .set ts => ofList ts
  | .add ts => s.union (ofList ts)

/-- The members change as a list of them does. -/
theorem mem_change {s : TagSet} {ts : List Tag} (h : ∀ t, t ∈ s ↔ t ∈ ts) (c : Change Tag) :
    ∀ t, t ∈ s.change c ↔ t ∈ c.apply ts := by
  intro t
  cases c with
  | set new => exact mem_ofList
  | add new =>
    show t ∈ s.union (ofList new) ↔ t ∈ ts ++ new
    rw [mem_union, mem_ofList, List.mem_append, h t]

end TagSet

namespace Draft

/-- The attributes of a draft. -/
inductive Attribute
  | name
  | type
  | naming
  | params
  | code
  | thrown
  | tags
  | ambient
  | typeParams
  deriving DecidableEq

namespace Step

/-- The attribute that a step is about. -/
def target : Step → Attribute
  | name _ => .name
  | type _ => .type
  | naming _ => .naming
  | params _ | addParams _ => .params
  | code _ | addCode _ => .code
  | addThrown _ => .thrown
  | tags _ | addTags _ => .tags
  | ambient _ => .ambient
  | addTypeParams _ => .typeParams

/-! ### Effects on each attribute -/

/-- The name that is set. -/
def name? : Step → Option (Option String)
  | name n => some (some n)
  | _ => none

/-- The type that is set. -/
def type? : Step → Option (Option TypeRef)
  | type t => some (some t)
  | _ => none

/-- The naming that is set. -/
def naming? : Step → Option Naming
  | naming n => some n
  | _ => none

/-- The change to the parameters. -/
def params? : Step → Option (Change Parameter)
  | params ps => some (.set ps)
  | addParams ps => some (.add ps)
  | _ => none

/-- The change to the code. -/
def code? : Step → Option (Change Body.Term)
  | code ts => some (.set ts)
  | addCode ts => some (.add ts)
  | _ => none

/-- The types added to those that are thrown. -/
def thrown? : Step → Option (List TypeRef)
  | addThrown ts => some ts
  | _ => none

/-- The change to the tags, if nothing but tags is offered. -/
def tags? : Step → Option (Change Tag)
  | tags cs => (cs.mapM TagCandidate.tag?).map .set
  | addTags cs => (cs.mapM TagCandidate.tag?).map .add
  | _ => none

/-- The ambient scope that is set. -/
def ambient? : Step → Option Scope
  | ambient s => some s
  | _ => none

/-- The type parameters that are added. -/
def typeParams? : Step → Option (List TypeParameter)
  | addTypeParams ps => some ps
  | _ => none

end Step

/-- What steps make of a draft, attribute by attribute. -/
structure Settles (d : Draft) (steps : List Step) (d' : Draft) : Prop where
  /-- The name set last. -/
  name : d'.name = (steps.filterMap Step.name?).getLastD d.name
  /-- The type set last. -/
  type : d'.type = (steps.filterMap Step.type?).getLastD d.type
  /-- The naming set last. -/
  naming : d'.naming = (steps.filterMap Step.naming?).getLastD d.naming
  /-- The parameters set last and those added later. -/
  params : Change.Leaves d.params (steps.filterMap Step.params?) d'.params
  /-- The code set last and what is added later. -/
  code : Change.Leaves d.code (steps.filterMap Step.code?) d'.code
  /-- All that was ever added. -/
  thrown : d'.thrown = d.thrown ++ (steps.filterMap Step.thrown?).flatten
  /-- The tags set last and those added later. -/
  tags : ∃ ts, Change.Leaves d.tags.toList (steps.filterMap Step.tags?) ts ∧
    ∀ t, t ∈ d'.tags ↔ t ∈ ts
  /-- The scope set last. -/
  ambient : d'.ambient = (steps.filterMap Step.ambient?).getLastD d.ambient
  /-- All that were ever added. -/
  typeParams : d'.typeParams = d.typeParams ++ (steps.filterMap Step.typeParams?).flatten

variable {β γ : Type} {d : Draft}

/-! ### Steps -/

/-- The draft after a step, and the same draft if the step fails. -/
def advance (d : Draft) (s : Step) : Draft := (d.step s).toOption.getD d

/-- What a step does to each attribute. -/
theorem advance_eq (d : Draft) (s : Step) :
    d.advance s = {
      name := s.name?.getD d.name
      type := s.type?.getD d.type
      naming := s.naming?.getD d.naming
      params := s.params?.elim d.params (Change.apply d.params)
      code := s.code?.elim d.code (Change.apply d.code)
      thrown := s.thrown?.elim d.thrown (d.thrown ++ ·)
      tags := s.tags?.elim d.tags d.tags.change
      ambient := s.ambient?.getD d.ambient
      typeParams := s.typeParams?.elim d.typeParams (d.typeParams ++ ·) } := by
  cases s with
  | tags cs | addTags cs =>
    simp only [advance, step, Step.tags?, TagSet.addCandidates, TagSet.ofCandidates]
    rcases TagCandidate.mapM_cases cs with ⟨ts, htags, haccept, -⟩ | ⟨htags, ⟨e, haccept⟩, -⟩
    · rw [htags, haccept]
      rfl
    · rw [htags, haccept]
      rfl
  | _ => rfl

/-! ### Runs seen through an attribute -/

/-- If each step acts on what an attribute shows by its effect, a run does so by all of them. -/
theorem run_shows (shows : Draft → β → Prop) {effect? : Step → Option γ} {act : β → γ → β}
    (hstep : ∀ d b s, shows d b → shows (d.advance s) ((effect? s).elim b (act b)))
    {b : β} (h : shows d b) (steps : List Step) :
    shows (d.run steps) ((steps.filterMap effect?).foldl act b) := by
  induction steps generalizing d b with
  | nil => exact h
  | cons s steps ih =>
    have hrest := ih (hstep d b s h)
    rw [List.filterMap_cons]
    cases heffect : effect? s with
    | none =>
      rw [heffect] at hrest
      exact hrest
    | some g =>
      rw [heffect] at hrest
      exact hrest

/-- An attribute that steps replace is what is set last. -/
theorem run_value (view : Draft → β) {value? : Step → Option β}
    (hstep : ∀ d s, view (d.advance s) = (value? s).getD (view d)) (d : Draft)
    (steps : List Step) : view (d.run steps) = (steps.filterMap value?).getLastD (view d) := by
  have hlast : ∀ (bs : List β) (b : β), bs.foldl (fun _ b => b) b = bs.getLastD b := by
    intro bs
    induction bs with
    | nil => exact fun _ => rfl
    | cons b' bs ih => exact fun _ => by rw [List.foldl_cons, ih, List.getLastD_cons]
  have hrun : view (d.run steps) = (steps.filterMap value?).foldl (fun _ b => b) (view d) := by
    refine run_shows (fun d b => view d = b) (fun d b s h => ?_) rfl steps
    rw [hstep, h]
    cases value? s <;> rfl
  rw [hrun, hlast]

/-- An attribute that steps add to holds all that was added. -/
theorem run_list (view : Draft → List β) {more? : Step → Option (List β)}
    (hstep : ∀ d s, view (d.advance s) = (more? s).elim (view d) (view d ++ ·)) (d : Draft)
    (steps : List Step) : view (d.run steps) = view d ++ (steps.filterMap more?).flatten := by
  have hrun : view (d.run steps) =
      (steps.filterMap more?).foldl (fun bs more => bs ++ id more) (view d) := by
    refine run_shows (fun d bs => view d = bs) (fun d bs s h => ?_) rfl steps
    rw [hstep, h]
    rfl
  rw [hrun, List.foldl_append_eq_append, List.map_id]

/-- An attribute that steps replace or add to holds what their changes leave. -/
theorem run_leaves (view : Draft → List β) {change? : Step → Option (Change β)}
    (hstep : ∀ d s, view (d.advance s) = (change? s).elim (view d) (Change.apply (view d)))
    (d : Draft) (steps : List Step) :
    Change.Leaves (view d) (steps.filterMap change?) (view (d.run steps)) := by
  refine Change.leaves_iff.mpr ?_
  refine run_shows (fun d bs => view d = bs) (fun d bs s h => ?_) rfl steps
  rw [hstep, h]

/-- The tags are what their changes leave of the members. -/
theorem run_tags (d : Draft) (steps : List Step) :
    ∃ ts, Change.Leaves d.tags.toList (steps.filterMap Step.tags?) ts ∧
      ∀ t, t ∈ (d.run steps).tags ↔ t ∈ ts := by
  refine ⟨_, Change.leaves_iff.mpr rfl, ?_⟩
  refine run_shows (fun d ts => ∀ t, t ∈ d.tags ↔ t ∈ ts) (fun d ts s h => ?_)
    (fun t => TagSet.mem_toList.symm) steps
  rw [advance_eq]
  cases hchange : s.tags? with
  | none =>
    intro t
    simpa [hchange] using h t
  | some c =>
    simpa [hchange] using TagSet.mem_change h c

/-- A run settles the draft. -/
theorem settles_run (d : Draft) (steps : List Step) : Settles d steps (d.run steps) where
  name := run_value Draft.name (fun d s => congrArg _ (advance_eq d s)) d steps
  type := run_value Draft.type (fun d s => congrArg _ (advance_eq d s)) d steps
  naming := run_value Draft.naming (fun d s => congrArg _ (advance_eq d s)) d steps
  params := run_leaves Draft.params (fun d s => congrArg _ (advance_eq d s)) d steps
  code := run_leaves Draft.code (fun d s => congrArg _ (advance_eq d s)) d steps
  thrown := run_list Draft.thrown (fun d s => congrArg _ (advance_eq d s)) d steps
  tags := run_tags d steps
  ambient := run_value Draft.ambient (fun d s => congrArg _ (advance_eq d s)) d steps
  typeParams := run_list Draft.typeParams (fun d s => congrArg _ (advance_eq d s)) d steps

/-- The steps leave one choice for each attribute. -/
theorem Settles.unique {steps : List Step} {d₁ d₂ : Draft} (h₁ : Settles d steps d₁)
    (h₂ : Settles d steps d₂) : d₁ = d₂ := by
  have hparams := h₁.params.unique h₂.params
  have hcode := h₁.code.unique h₂.code
  have htags : d₁.tags = d₂.tags := by
    obtain ⟨ts₁, hleaves₁, hmem₁⟩ := h₁.tags
    obtain ⟨ts₂, hleaves₂, hmem₂⟩ := h₂.tags
    exact TagSet.ext_mem fun t => by rw [hmem₁, hmem₂, hleaves₁.unique hleaves₂]
  have hname := h₁.name.trans h₂.name.symm
  have htype := h₁.type.trans h₂.type.symm
  have hnaming := h₁.naming.trans h₂.naming.symm
  have hthrown := h₁.thrown.trans h₂.thrown.symm
  have hambient := h₁.ambient.trans h₂.ambient.symm
  have htypeParams := h₁.typeParams.trans h₂.typeParams.symm
  cases d₁
  cases d₂
  congr

/-! ### Steps on different attributes -/

/-- A step has no effect on an attribute. -/
def Step.Spares (s : Step) : Attribute → Prop
  | .name => s.name? = none
  | .type => s.type? = none
  | .naming => s.naming? = none
  | .params => s.params? = none
  | .code => s.code? = none
  | .thrown => s.thrown? = none
  | .tags => s.tags? = none
  | .ambient => s.ambient? = none
  | .typeParams => s.typeParams? = none

theorem Step.spares_of_target_ne {s : Step} {a : Attribute} (h : s.target ≠ a) : s.Spares a := by
  cases a <;> cases s <;> first | rfl | exact absurd rfl h

/-- The steps of a list that are about an attribute. -/
def stepsOn (a : Attribute) (steps : List Step) : List Step :=
  steps.filter fun s => s.target = a

/-- Steps that agree on an attribute have the same effects on it. -/
theorem filterMap_eq_of_stepsOn {effect? : Step → Option γ} {a : Attribute}
    (hspares : ∀ s : Step, s.Spares a → effect? s = none) {steps steps' : List Step}
    (h : stepsOn a steps' = stepsOn a steps) :
    steps'.filterMap effect? = steps.filterMap effect? := by
  have hown : ∀ steps, (stepsOn a steps).filterMap effect? = steps.filterMap effect? := by
    intro steps
    rw [stepsOn, List.filterMap_filter]
    refine List.filterMap_congr fun s _ => ?_
    by_cases hs : s.target = a
    · simp [hs]
    · simp [hs, hspares s (Step.spares_of_target_ne hs)]
  rw [← hown steps', h, hown]

/-- Steps settle a draft as others do that agree with them on each attribute. -/
theorem Settles.congr {steps steps' : List Step} {d' : Draft} (h : Settles d steps d')
    (hsteps : ∀ a, stepsOn a steps' = stepsOn a steps) : Settles d steps' d' where
  name := by
    rw [filterMap_eq_of_stepsOn (fun _ => id) (hsteps .name)]
    exact h.name
  type := by
    rw [filterMap_eq_of_stepsOn (fun _ => id) (hsteps .type)]
    exact h.type
  naming := by
    rw [filterMap_eq_of_stepsOn (fun _ => id) (hsteps .naming)]
    exact h.naming
  params := by
    rw [filterMap_eq_of_stepsOn (fun _ => id) (hsteps .params)]
    exact h.params
  code := by
    rw [filterMap_eq_of_stepsOn (fun _ => id) (hsteps .code)]
    exact h.code
  thrown := by
    rw [filterMap_eq_of_stepsOn (fun _ => id) (hsteps .thrown)]
    exact h.thrown
  tags := by
    rw [filterMap_eq_of_stepsOn (fun _ => id) (hsteps .tags)]
    exact h.tags
  ambient := by
    rw [filterMap_eq_of_stepsOn (fun _ => id) (hsteps .ambient)]
    exact h.ambient
  typeParams := by
    rw [filterMap_eq_of_stepsOn (fun _ => id) (hsteps .typeParams)]
    exact h.typeParams

/-- The steps that fail are those that offer something else as a tag. -/
theorem exists_step_eq_error_iff {s : Step} :
    (∃ e, d.step s = .error e) ↔ ∃ cs v, (s = .tags cs ∨ s = .addTags cs) ∧ .other v ∈ cs := by
  cases s with
  | tags cs =>
    simp only [step, map_eq_error_iff, TagSet.exists_ofCandidates_eq_error_iff]
    simp
  | addTags cs =>
    simp only [step, TagSet.addCandidates, map_eq_error_iff,
      TagSet.exists_ofCandidates_eq_error_iff]
    simp
  | _ => simp [step]

/-- **A run is settled attribute by attribute,** whatever the steps on other attributes in between
are and where they stand. The steps that fail are passed over, which are those that offer something
else as a tag. -/
theorem run_settles (d : Draft) (steps : List Step) :
    (∀ d', d' = d.run steps ↔ Settles d steps d') ∧
    (∀ steps', (∀ a, stepsOn a steps' = stepsOn a steps) →
      d.run steps' = d.run steps ∧ (d.run steps').build = (d.run steps).build) ∧
    ∀ s, (∃ e, d.step s = .error e) ↔
      ∃ cs v, (s = .tags cs ∨ s = .addTags cs) ∧ .other v ∈ cs := by
  refine ⟨fun d' => ?_, fun steps' hsteps => ?_, fun s => exists_step_eq_error_iff⟩
  · constructor
    · rintro rfl
      exact settles_run d steps
    · intro h
      exact h.unique (settles_run d steps)
  · have hsettles := (settles_run d steps).congr hsteps
    have hrun := (settles_run d steps').unique hsettles
    exact ⟨hrun, congrArg build hrun⟩

/-- Parameters that are added, replaced and added to again, and tags among which a null is offered,
in between and one attribute after the other. -/
theorem run_settles_two_ways :
    let a : Parameter := ⟨"a", .primitive .int, by decide⟩
    let b : Parameter := ⟨"b", .primitive .int, by decide⟩
    let c : Parameter := ⟨"c", .primitive .int, by decide⟩
    let mixed : List Step := [.addTags [.tag .copy], .addParams [a], .name "put",
      .tags [.tag .field, .other .null], .params [b], .addTags [.tag .final], .addParams [c]]
    let sorted : List Step := [.name "put", .addParams [a], .params [b], .addParams [c],
      .addTags [.tag .copy], .tags [.tag .field, .other .null], .addTags [.tag .final]]
    let d : Draft :=
      ⟨some "put", none, .identity, [b, c], [], [], .ofList [.final, .copy], .empty, []⟩
    (∀ x, stepsOn x sorted = stepsOn x mixed) ∧ empty.run sorted = empty.run mixed ∧
      (empty.run sorted).build = (empty.run mixed).build ∧ empty.run mixed = d := by
  intro a b c mixed sorted d
  have hsteps : ∀ x, stepsOn x sorted = stepsOn x mixed := by
    intro x
    cases x <;> rfl
  obtain ⟨hrun, hbuild⟩ := (run_settles empty mixed).2.1 sorted hsteps
  exact ⟨hsteps, hrun, hbuild, by decide +kernel⟩

end Draft

end MemberEncoding
