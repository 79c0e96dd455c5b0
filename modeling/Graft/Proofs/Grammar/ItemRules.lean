import Graft.Proofs.Grammar.Parameters

/-!
# What the rules for items ensure

An item is read by one of many rules, and only three of them declare a type.

* `Parser.Ensures.terminated`: every entry of a list that was read has what its parser ensures.
* `Item.NoType`: an item that declares no type. All rules but three make such items only.
* **`Grammar.itemBody_ensures`**, **`Grammar.item_ensures`**: so what is to be ensured of items is
  shown for these three rules, and for the attributes in front.
-/

namespace Graft

/-! ## 1. Lists of entries -/

namespace Parser.Ensures

variable {α β : Type} {P : α → Prop}

theorem expected (what : List Expectation) : (expected what : Parser α).Ensures P :=
  after fun _ => fail _

theorem mono {Q : α → Prop} {p : Parser α} (h : p.Ensures P) (hPQ : ∀ a, P a → Q a) :
    p.Ensures Q :=
  fun c a c' run => hPQ a (h c a c' run)

theorem branch {c : Prop} [Decidable c] {p q : Parser α} (hp : p.Ensures P) (hq : q.Ensures P) :
    (if c then p else q).Ensures P := by
  split
  next => exact hp
  next => exact hq

/-- Two branches that go on alike. -/
theorem rejoin {c : Prop} [Decidable c] {p q : Parser β} {f : β → Parser α}
    (hf : ∀ b, (f b).Ensures P) : (if c then p >>= f else q >>= f).Ensures P :=
  branch (after hf) (after hf)

/-- One more entry is read by the parser of entries, and so are the rest. -/
theorem separatedN (sep : String) (stop : Parser Bool) {entry : Parser α} (h : entry.Ensures P)
    (n : Nat) : (separatedN sep stop entry n).Ensures fun x => ∀ a ∈ x.1, P a := by
  induction n with
  | zero => exact fail _
  | succ n ih =>
    unfold Parser.separatedN
    refine after fun stopped => ?_
    split
    next => exact pure fun _ mem => nomatch mem
    next =>
      refine h.bind fun a ha => after fun stopped => ?_
      split
      next => exact pure fun b mem => List.mem_singleton.mp mem ▸ ha
      next =>
        refine after fun _ => ih.bind fun ⟨more, trailing⟩ rest => pure fun b mem => ?_
        rcases List.mem_cons.mp mem with rfl | mem
        · exact ha
        · exact rest b mem

theorem terminated {entry : Parser α} (h : entry.Ensures P) :
    (terminated entry).Ensures fun x => ∀ a ∈ x.1, P a :=
  after fun _ => (separatedN _ _ h _).bind fun _ rest => pure rest

end Parser.Ensures

/-! ## 2. Items that declare no type -/

/-- An item that declares no struct, enum or union. -/
def Item.NoType : Item → Prop
  | .struct _ _ => False
  | .enum _ _ _ _ => False
  | .union _ _ _ _ => False
  | _ => True

namespace Grammar

open Graft.Parser

theorem keptSince_noType (start : Cursor) : (keptSince start).Ensures Item.NoType :=
  .after fun _ => .pure .intro

theorem functionItem_noType (r : Rules) (start : Cursor) :
    (functionItem r start).Ensures Item.NoType :=
  .after fun _ => .after fun _ => .after fun _ =>
    .branch (.after fun _ => keptSince_noType start) (.after fun _ => .pure .intro)

theorem externCrate_noType : externCrate.Ensures Item.NoType := by
  refine .after fun _ => .after fun _ => .after fun _ => .after fun _ => .rejoin fun _ => ?_
  exact .after fun _ => .rejoin fun _ => .after fun _ => .pure .intro

theorem useItem_noType (start : Cursor) : (useItem start).Ensures Item.NoType := by
  refine .after fun _ => .after fun _ => .after fun _ => .after fun _ => .after fun tree =>
    .after fun _ => ?_
  cases tree with
  | none => exact keptSince_noType start
  | some tree => exact .pure .intro

theorem staticItem_noType (r : Rules) (start : Cursor) :
    (staticItem r start).Ensures Item.NoType := by
  refine .after fun _ => .after fun _ => .after fun _ => .after fun _ => .after fun _ =>
    .branch ?_ ?_
  · exact .after fun _ => .after fun _ => .after fun _ => keptSince_noType start
  · refine .after fun _ => .after fun _ => .after fun _ => .branch ?_ ?_
    · exact .after fun _ => keptSince_noType start
    · exact .after fun _ => .after fun _ => .after fun _ => .pure .intro

theorem constItem_noType (r : Rules) (start : Cursor) :
    (constItem r start).Ensures Item.NoType := by
  refine .after fun _ => .after fun _ => .after fun _ => .after fun _ => .after fun _ =>
    .after fun _ => .branch ?_ ?_
  · exact .after fun _ => keptSince_noType start
  · exact .after fun _ => .after fun _ => .after fun _ => .pure .intro

theorem typeItem_noType (r : Rules) (start : Cursor) : (typeItem r start).Ensures Item.NoType :=
  .after fun _ => .branch (keptSince_noType start) (.pure .intro)

theorem modItem_noType (r : Rules) : (modItem r).Ensures Item.NoType := by
  refine .after fun _ => .after fun _ => .after fun _ => .after fun _ => .branch ?_ ?_
  · exact .after fun _ => .pure .intro
  · exact .after fun _ => .branch (.after fun _ => .pure .intro) (.expected _)

theorem traitBody_noType (r : Rules) (head : List Part) (params : Generics) :
    (traitBody r head params).Ensures Item.NoType := by
  refine .after fun _ => .branch (.after fun _ => .after fun _ => ?_) ?_
  all_goals exact .after fun _ => .after fun _ => .after fun _ => .pure .intro

theorem traitItem_noType (r : Rules) : (traitItem r).Ensures Item.NoType := by
  refine .after fun _ => .after fun _ => .after fun _ => .after fun _ => .after fun _ =>
    .after fun _ => .branch (traitBody_noType r _ _) (.after fun _ => .branch ?_ ?_)
  · exact traitBody_noType r _ _
  · refine .after fun _ => .branch ?_ (.expected _)
    exact .after fun _ => .after fun _ => .after fun _ => .after fun _ => .pure .intro

theorem implItem_noType (r : Rules) (start : Cursor) :
    (implItem r start).Ensures Item.NoType := by
  refine .after fun _ => .after fun _ => .after fun _ => .after fun _ => .after fun _ =>
    .rejoin fun _ => .after fun constant => .branch (.after fun _ => .after fun _ => ?_) ?_
  all_goals
    refine .after fun _ => .after fun _ => .rejoin fun _ => .after fun first => ?_
    cases traitPath? first
    all_goals
      refine .after fun _ => .branch (.after fun _ => .after fun _ => ?_)
        (.branch ?_ (.after fun _ => ?_))
      all_goals
        refine .after fun _ => .after fun _ => .after fun _ => ?_
        exact .branch (keptSince_noType start) (.pure .intro)

theorem macroItem_noType : macroItem.Ensures Item.NoType := by
  refine .after fun _ => .after fun _ => .after fun _ => .after fun _ => ?_
  refine .branch (.after fun _ => ?_) ?_
  all_goals
    exact .after fun _ => .after fun _ => .branch (.after fun _ => .pure .intro) (.expected _)

theorem externItem_noType (r : Rules) (next : Cursor) :
    (externItem r next).Ensures Item.NoType := by
  refine .branch externCrate_noType (.branch (.after fun _ => .pure .intro) ?_)
  split
  · exact .branch (.after fun _ => .pure .intro) (.after fun _ => .expected _)
  · exact .fail _
  · exact .after fun _ => .expected _

theorem unsafeItem_noType (r : Rules) (start next : Cursor) :
    (unsafeItem r start next).Ensures Item.NoType := by
  refine .branch (traitItem_noType r) (.branch (implItem_noType r start) ?_)
  refine .branch ?_ (.branch ?_ (.after fun _ => .expected _))
  all_goals exact .after fun _ => .after fun _ => .after fun _ => keptSince_noType start

/-- **Types are declared by three rules**: what these ensure and what holds of every item that
declares no type, the rule for items ensures. -/
theorem itemBody_ensures {P : Item → Prop} {r : Rules} (hstruct : (structItem r).Ensures P)
    (henum : (enumItem r).Ensures P) (hunion : (unionItem r).Ensures P)
    (hother : ∀ i : Item, i.NoType → P i) (start : Cursor) (vis : Visibility) (next : Cursor)
    (isFn : Bool) : (itemBody r start vis next isFn).Ensures P := by
  have other {p : Parser Item} (h : p.Ensures Item.NoType) : p.Ensures P := h.mono hother
  refine .branch (other (functionItem_noType r start)) (.branch (other (externItem_noType r _)) ?_)
  refine .branch (other (useItem_noType start)) (.branch (other (staticItem_noType r start)) ?_)
  refine .branch (.branch (other (constItem_noType r start)) (.after fun _ => .expected _)) ?_
  refine .branch (other (unsafeItem_noType r start _)) (.branch (other (modItem_noType r)) ?_)
  refine .branch (other (typeItem_noType r start)) (.branch hstruct ?_)
  refine .branch henum (.branch hunion ?_)
  refine .branch (other (traitItem_noType r)) (.branch (other (traitItem_noType r)) ?_)
  refine .branch (other (implItem_noType r start)) (.branch (other macroItem_noType) ?_)
  exact .branch (.after fun _ => .pure (hother _ .intro)) (.after fun _ => .expected _)

/-- What the rule for items ensures, if attributes in front of an item keep it. -/
theorem item_ensures {P Q : Item → Prop} {r : Rules}
    (hbody : ∀ start vis next isFn, (itemBody r start vis next isFn).Ensures P)
    {A : List Attribute → Prop} (hattrs : outerAttributes.Ensures A)
    (hprepend : ∀ i more, P i → A more → Q (i.prependAttrs more)) : (item r).Ensures Q := by
  refine .after fun start => hattrs.bind fun attrs readable => .after fun seen => ?_
  split
  · exact .fail _
  · refine .after fun isFn => (hbody start _ _ isFn).bind fun i hi => ?_
    exact .pure (hprepend i attrs hi readable)

end Grammar

end Graft
