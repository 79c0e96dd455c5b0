import Graft.Proofs.Grammar.ItemRules

/-!
# The fields of a struct

A struct that was read names all of its fields, or none.

* `Fields.Uniform`: all fields have a name, or no field has; `Item.Uniform`: an item that has only
  such fields, if it is a struct.
* **`Item.parse_uniform`**: an item that was parsed is so. Structs are read by one rule, and an item
  that is none is so anyway.
-/

namespace Graft

/-- All fields have a name, or no field has. -/
def Fields.Uniform (fields : Fields) : Prop :=
  (∀ f ∈ fields.toList, f.ident ≠ none) ∨ ∀ f ∈ fields.toList, f.ident = none

/-- An item whose fields, if it is a struct, are all named or all nameless. -/
def Item.Uniform : Item → Prop
  | .struct _ fields => fields.Uniform
  | _ => True

theorem Item.NoType.uniform {i : Item} (h : i.NoType) : i.Uniform := by
  cases i with
  | struct head fields => exact h.elim
  | _ => exact .intro

theorem Item.Uniform.prependAttrs {i : Item} (h : i.Uniform) (more : List Attribute) :
    (i.prependAttrs more).Uniform := by
  cases i with
  | struct head fields => exact h
  | _ => exact .intro

namespace Grammar

open Graft.Parser

theorem namedField_named (r : Rules) : (namedField r).Ensures fun f => f.ident ≠ none := by
  refine .after fun c => ?_
  unfold namedFieldN
  refine .after fun _ => .after fun _ => .after fun nameless => ?_
  refine .rejoin fun ident => .after fun _ => .after fun record => .rejoin fun t => ?_
  exact .pure fun h => nomatch h

theorem unnamedField_unnamed (r : Rules) : (unnamedField r).Ensures fun f => f.ident = none :=
  .after fun _ => .after fun _ => .after fun _ => .pure rfl

theorem namedFields_uniform (r : Rules) : (namedFields r).Ensures Fields.Uniform :=
  (Ensures.within .brace (.terminated (namedField_named r))).bind fun _ h => .pure (.inl h)

theorem unnamedFields_uniform (r : Rules) : (unnamedFields r).Ensures Fields.Uniform :=
  (Ensures.within .paren (.terminated (unnamedField_unnamed r))).bind fun _ h => .pure (.inr h)

theorem structItem_uniform (r : Rules) : (structItem r).Ensures Item.Uniform := by
  refine .after fun head => .after fun clause => .after fun paren => .branch ?_ ?_
  · refine (unnamedFields_uniform r).bind fun fields uniform => .after fun clause => ?_
    refine .after fun semi => .branch ?_ (.branch (.expected _) (.expected _))
    exact .after fun _ => .pure uniform
  · refine .after fun brace => .branch ?_ (.after fun semi => .branch ?_ ?_)
    · exact (namedFields_uniform r).bind fun fields uniform => .pure uniform
    · exact .after fun _ => .pure (.inr fun f mem => nomatch mem)
    · exact .branch (.expected _) (.expected _)

theorem enumItem_uniform (r : Rules) : (enumItem r).Ensures Item.Uniform :=
  .after fun _ => .after fun _ => .after fun _ => .pure .intro

theorem unionItem_uniform (r : Rules) : (unionItem r).Ensures Item.Uniform :=
  .after fun _ => .after fun _ => .after fun _ => .pure .intro

theorem item_uniform (r : Rules) : (item r).Ensures Item.Uniform :=
  item_ensures
    (itemBody_ensures (structItem_uniform r) (enumItem_uniform r) (unionItem_uniform r)
      fun _ noType => noType.uniform)
    (.trivial _) fun _ more uniform _ => uniform.prependAttrs more

end Grammar

/-- **A struct that was parsed names all of its fields or none.** -/
theorem Item.parse_uniform {ts : List Token} {i : Item} (h : Item.parse ts = .ok i) : i.Uniform :=
  parse_ensures Grammar.item_uniform h

end Graft
