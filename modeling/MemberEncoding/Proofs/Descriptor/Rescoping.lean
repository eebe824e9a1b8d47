import MemberEncoding.Proofs.Descriptor.Acceptance
import MemberEncoding.Proofs.TypeRef.Rescoping

/-!
# MemberEncoding.Proofs.Descriptor.Rescoping

**A descriptor is read alike in scopes that give its types the same names** (`read_order_free`). It
does not matter where a name comes from, the ambient scope or the descriptor itself, and in which
order the names come. So the lines of type parameters may stand in any order, and the element has
its type parameters in the same one.

For two ambient scopes the readings are compared as wholes, failures and mentions included
(`read_eq_map`). For the order of the lines it is enough to compare the elements that are described,
since a descriptor is described part by part.
-/

namespace MemberEncoding

variable {s s' : Scope}

/-! ### Short forms in scopes with the same names -/

theorem Parameter.read_congr (h : ∀ n, n ∈ s ↔ n ∈ s') : Parameter.read s = Parameter.read s' := by
  funext line
  simp only [Parameter.read, TypeRef.read_congr h]

theorem TypeParameter.read_congr (h : ∀ n, n ∈ s ↔ n ∈ s') :
    TypeParameter.read s = TypeParameter.read s' := by
  have hbound : readBound s = readBound s' := by
    funext name text
    simp only [readBound, TypeRef.read_congr h]
  funext line
  simp only [TypeParameter.read, hbound]

/-- The rules for elements do not ask for the ambient scope. -/
theorem Element.make_ambient (p : ElementParts) (ambient : Scope) :
    make { p with ambient } = (make p).map fun e => { e with ambient } := by
  unfold make
  cases Bearer.element.check p.name with
  | error err => rfl
  | ok named =>
    by_cases hd : (p.params.map Parameter.name).Nodup
    · by_cases ht : Tag.field ∈ p.tags ∧ Tag.helper ∈ p.tags
      · simp only [Except.bind, bind, dif_pos hd, dif_pos ht, Except.map]
      · simp only [Except.bind, bind, dif_pos hd, dif_neg ht, Except.map]
    · simp only [Except.bind, bind, dif_neg hd, Except.map]

/-! ### Other orders -/

/-- The items at the positions that are listed. -/
def reorder {α : Type} (order : List Nat) (xs : List α) : List α := order.filterMap (xs[·]?)

theorem reorder_range {α : Type} (xs : List α) : reorder (List.range xs.length) xs = xs := by
  induction xs with
  | nil => rfl
  | cons x xs ih =>
    rw [List.length_cons, List.range_succ_eq_map, reorder, List.filterMap_cons]
    simpa [reorder, List.filterMap_map, Function.comp_def] using ih

/-- Listing every position once gives the same items in another order. -/
theorem reorder_perm {α : Type} {order : List Nat} {xs : List α}
    (h : order.Perm (List.range xs.length)) : (reorder order xs).Perm xs := by
  have hperm := h.filterMap (xs[·]?)
  rwa [show (List.range xs.length).filterMap (xs[·]?) = xs from reorder_range xs] at hperm

theorem map_reorder {α β : Type} (f : α → β) (order : List Nat) (xs : List α) :
    (reorder order xs).map f = reorder order (xs.map f) := by
  simp [reorder, List.map_filterMap]

/-- Items keep their results in every order. -/
theorem forall₂_reorder {α β : Type} {r : α → β → Prop} {as : List α} {bs : List β}
    (h : List.Forall₂ r as bs) (order : List Nat) :
    List.Forall₂ r (reorder order as) (reorder order bs) := by
  induction order with
  | nil => exact .nil
  | cons i order ih =>
    have hlength := h.length_eq
    by_cases hi : i < as.length
    · have hget := h.get hi (hlength ▸ hi)
      simpa [reorder, hi, hlength ▸ hi] using List.Forall₂.cons hget ih
    · simpa [reorder, hi, hlength ▸ hi] using ih

namespace Descriptor

variable {ambient ambient' : Scope} {d : Descriptor} {e : Element}

/-- In two ambient scopes a descriptor is read alike, but for the ambient scope of the element, if
its types are read in scopes with the same names. -/
theorem read_eq_map (h : ∀ n, n ∈ scope ambient d ↔ n ∈ scope ambient' d) :
    read ambient' d = (fun e : Element => { e with ambient := ambient' }) <$> read ambient d := by
  simp only [read, map_bind]
  refine Reading.bind_congr_of_ok fun _ _ => Reading.bind_congr_of_ok fun name _ =>
    Reading.bind_congr_of_ok fun typeDatum _ => Reading.bind_congr_of_ok fun lines hlines =>
    Reading.bind_congr_of_ok fun declared hdeclared => ?_
  have hnames : declared = d.declared := by
    rw [Descriptor.declared, (readTexts_eq_ok_iff.mp hlines).textsAt_eq]
    exact (declaredNames_eq_ok_iff.mp hdeclared).1.symm
  rw [hnames]
  change ∀ n, n ∈ ambient.widenAll d.declared ↔ n ∈ ambient'.widenAll d.declared at h
  simp only [TypeParameter.read_congr h, TypeRef.read_congr h, Parameter.readLines,
    Parameter.read_congr h]
  -- Only the element that is made in the end has the ambient scope.
  have hmake : ∀ p : ElementParts,
      (Reading.of (Element.make { p with ambient := ambient' }) : Reading Error Element) =
        (fun e : Element => { e with ambient := ambient' }) <$> .of (Element.make p) := by
    intro p
    rw [Element.make_ambient]
    rfl
  simp only [← hmake]

/-! ### The lines of type parameters in another order -/

/-- The datum with its items in another order, if it is a list. -/
def reorderItems (order : List Nat) : Value → Value
  | .list items => .list (reorder order items)
  | v => v

theorem StandsFor.reordered {v : Option Value} {ss : List String} (h : StandsFor v ss)
    {order : List Nat} (horder : order.Perm (List.range ss.length)) :
    StandsFor (v.map (reorderItems order)) (reorder order ss) := by
  cases h with
  | absent =>
    obtain rfl : order = [] := by simpa using horder
    exact .absent
  | null =>
    obtain rfl : order = [] := by simpa using horder
    exact .null
  | one s =>
    obtain rfl : order = [0] := by simpa using horder
    exact .one s
  | list ss =>
    have hitems : reorderItems order (.texts ss) = .texts (reorder order ss) := by
      rw [Value.texts, reorderItems, ← map_reorder, Value.texts]
    rw [Option.map_some, hitems]
    exact .list _

/-- The descriptor with the lines of type parameters in another order. -/
def reorderTypeParams (order : List Nat) (d : Descriptor) : Descriptor :=
  d.mapField .typeParams (reorderItems order)

/-- The lines are found in the other order, and everything else as it was. -/
theorem field?_reorderTypeParams (order : List Nat) (d : Descriptor) (k : Key) :
    (d.reorderTypeParams order).field? k =
      if k = .typeParams then (d.field? k).map (reorderItems order) else d.field? k :=
  field?_mapField ..

/-- The descriptor with the lines in another order describes the element with its type parameters
in the same order. -/
theorem Describes.reordered (h : Describes ambient d e) {order : List Nat}
    (horder : order.Perm (List.range (d.textsAt .typeParams).length)) :
    Describes ambient (d.reorderTypeParams order)
      { e with typeParams := reorder order e.typeParams } := by
  let e' : Element := { e with typeParams := reorder order e.typeParams }
  obtain ⟨lines, hlines, hread⟩ := h.typeParams
  rw [hlines.textsAt_eq] at horder
  have hperm : (e'.typeParams.map TypeParameter.name).Perm (e.typeParams.map TypeParameter.name) :=
    (reorder_perm (hread.length_eq ▸ horder)).map _
  have hscope : ∀ n, n ∈ e'.scope ↔ n ∈ e.scope := by
    intro n
    simp only [Element.scope, Scope.mem_widenAll, hperm.mem_iff]
    rfl
  have hother : ∀ k, k ≠ .typeParams → (d.reorderTypeParams order).field? k = d.field? k := by
    intro k hk
    rw [field?_reorderTypeParams, if_neg hk]
  change Describes ambient (d.reorderTypeParams order) e'
  exact {
    keys := forall_isKnown_of_map_fst_eq (map_fst_mapField ..) h.keys
    name := by
      rw [hother _ (by decide)]
      exact h.name
    ambient := h.ambient
    distinct := hperm.nodup_iff.mpr h.distinct
    typeParams := by
      rw [field?_reorderTypeParams, if_pos rfl, TypeParameter.read_congr hscope]
      exact ⟨_, hlines.reordered horder, forall₂_reorder hread order⟩
    type := by
      rw [hother _ (by decide), TypeRef.read_congr hscope]
      exact h.type
    naming := by
      rw [hother _ (by decide)]
      exact h.naming
    params := by
      rw [hother _ (by decide), Parameter.read_congr hscope]
      exact h.params
    code := by
      rw [hother _ (by decide)]
      exact h.code
    thrown := by
      rw [hother _ (by decide), TypeRef.read_congr hscope]
      exact h.thrown
    tags := by
      rw [hother _ (by decide)]
      exact h.tags }

/-- **A descriptor is read alike wherever the names in its scope come from, and in whatever order
they come.** The ambient scope is seen in the element only as such; and the lines of type
parameters may stand in any order, which is then the order of the element's type parameters. -/
theorem read_order_free (d : Descriptor) :
    (∀ ambient ambient' : Scope,
      (∀ n, n ∈ ambient ∨ n ∈ d.declared ↔ n ∈ ambient' ∨ n ∈ d.declared) →
      (∃ err, (read ambient d).outcome = .error err ∧ (read ambient' d).outcome = .error err) ∨
      ∃ e, (read ambient d).outcome = .ok e ∧ e.ambient = ambient ∧
        (read ambient' d).outcome = .ok { e with ambient := ambient' }) ∧
    ∀ ambient e order, (read ambient d).outcome = .ok e →
      order.Perm (List.range (d.textsAt .typeParams).length) →
      (read ambient (d.reorderTypeParams order)).outcome =
        .ok { e with typeParams := reorder order e.typeParams } := by
  refine ⟨fun ambient ambient' h => ?_, fun ambient e order hread horder => ?_⟩
  · have hscope : ∀ n, n ∈ scope ambient d ↔ n ∈ scope ambient' d := by
      simpa [scope] using h
    rw [read_eq_map hscope, Reading.outcome_map]
    cases hread : (read ambient d).outcome with
    | error err => exact .inl ⟨err, rfl, rfl⟩
    | ok e => exact .inr ⟨e, rfl, (outcome_read_eq_ok_iff.mp hread).ambient, rfl⟩
  · exact outcome_read_eq_ok_iff.mpr ((outcome_read_eq_ok_iff.mp hread).reordered horder)

/-- Each ambient scope lacks a name that the descriptor declares, and the first of the lines refers
to the second. -/
theorem read_order_free_get :
    let ambient : Scope := ⟨["T", "K"], by decide⟩
    let ambient' : Scope := ⟨["K", "U"], by decide⟩
    let d (lines : List String) : Descriptor :=
      [(.text "name", .text "get"), (.text "type", .text "K"), (.text "type_params", .texts lines)]
    ∃ e, (read ambient (d ["T: Box<U>", "U"])).outcome = .ok e ∧
      (read ambient' (d ["T: Box<U>", "U"])).outcome = .ok { e with ambient := ambient' } ∧
      ∃ t u, e.typeParams = [t, u] ∧
        (read ambient (d ["U", "T: Box<U>"])).outcome = .ok { e with typeParams := [u, t] } := by
  intro ambient ambient' d
  let bound : TypeRef := .parameterized ⟨"Box"⟩ (.one (.var "U"))
  let t : TypeParameter := ⟨"T", [bound], by decide, by simp [bound, TypeRef.isNominal]⟩
  let u : TypeParameter := ⟨"U", [], by decide, by simp⟩
  let e : Element := ⟨⟨"get", .var "K", .identity, [], [], [], .empty, ambient, [t, u]⟩,
    by decide, by decide, by decide⟩
  have hbounds : Text.cutAll '&' "Box<U>" = ["Box<U>"] := by decide +kernel
  have hdescribes : Describes ambient (d ["T: Box<U>", "U"]) e := {
    keys := by decide +kernel
    name := rfl
    ambient := rfl
    distinct := by decide
    typeParams := by
      refine ⟨["T: Box<U>", "U"], .list _, .cons ?_ (.cons ?_ .nil)⟩
      · refine TypeParameter.outcome_read_eq_ok_iff.mpr (.inr ⟨"Box<U>", by decide +kernel, ?_⟩)
        rw [hbounds]
        exact .cons (TypeRef.read_of_lex (by decide +kernel) (by decide +kernel)) .nil
      · exact TypeParameter.outcome_read_eq_ok_iff.mpr (.inl (by decide +kernel))
    type := ⟨_, "K", rfl, rfl, TypeRef.read_of_lex (by decide +kernel) (by decide +kernel)⟩
    naming := ⟨"*", .absent, by decide +kernel⟩
    params := ⟨[], .absent, .nil⟩
    code := ⟨"", .absent, Body.termsOf_nil⟩
    thrown := ⟨[], .absent, .nil⟩
    tags := ⟨[], .absent, rfl⟩ }
  have hread := outcome_read_eq_ok_iff.mpr hdescribes
  obtain ⟨hambient, horder⟩ := read_order_free (d ["T: Box<U>", "U"])
  have hdeclared : (d ["T: Box<U>", "U"]).declared = ["T", "U"] := by
    rw [hdescribes.declared_eq]
    rfl
  have hnames : ∀ n, n ∈ ambient ∨ n ∈ (d ["T: Box<U>", "U"]).declared ↔
      n ∈ ambient' ∨ n ∈ (d ["T: Box<U>", "U"]).declared := by
    intro n
    rw [hdeclared]
    show n ∈ ["T", "K"] ∨ n ∈ ["T", "U"] ↔ n ∈ ["K", "U"] ∨ n ∈ ["T", "U"]
    grind
  refine ⟨e, hread, ?_, t, u, rfl, ?_⟩
  · rcases hambient ambient ambient' hnames with ⟨err, herr, -⟩ | ⟨e', he', -, hread'⟩
    · cases hread.symm.trans herr
    · cases hread.symm.trans he'
      exact hread'
  · exact horder ambient e [1, 0] hread (by decide +kernel)

end Descriptor

end MemberEncoding
