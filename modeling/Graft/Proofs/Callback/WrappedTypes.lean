import Graft.Proofs.Callback.ReturnScope
import Mathlib

/-!
# Callbacks whose types are in parentheses

Parentheses and invisible groups may stand around the type of a callback, around the type that it
refers to or boxes, and around what its function trait takes and returns.

* `Bound.Rewraps`, `Ty.Rewraps`, `Signature.Rewraps`: the same declaration with such wrappers at
  some of these places.
* `Bound.HidesUnit`: a function trait whose result is `()` in parentheses.
* `Signature.Rewraps.mention_elsewhere_eq`: wrappers change nothing about where a name occurs.
* `Signature.Rewraps.askAlike`: both ask for a callback in the same way, or neither has one.
* **`Signature.Rewraps.callback?_told`**: what becomes of the callback. Only a hidden `()` is not
  seen through.
-/

namespace Graft

/-! ## 1. Wrapped types -/

/-- A path whose last segment takes and returns these types, some of them wrapped. -/
inductive Path.Rewraps : Path → Path → Prop
  | same (p : Path) : Rewraps p p
  | call {leading : Option Span} {front : List Segment} {ident : Ident} {span : Span}
      {inputs inputs' : List Ty} {trailing : Bool} {output output' : Option Ty}
      (takes : List.Forall₂ Ty.Wraps inputs inputs')
      (returns : Option.Rel Ty.Wraps output output') :
      Rewraps (.mk leading (front ++ [Segment.mk ident (.paren span inputs trailing output)]))
        (.mk leading (front ++ [Segment.mk ident (.paren span inputs' trailing output')]))

/-- A bound whose trait takes and returns these types, some of them wrapped. -/
inductive Bound.Rewraps : Bound → Bound → Prop
  | lifetime (l : Lifetime) : Rewraps (.lifetime l) (.lifetime l)
  | trait {paren modifier : Option Span} {binder : Option Binder} {p p' : Path}
      (h : p.Rewraps p') :
      Rewraps (.trait paren modifier binder p) (.trait paren modifier binder p')

/-- A path such as `Box<_>`, with one of its arguments left open. -/
structure OpenPath where
  leading : Option Span
  front : List Segment
  ident : Ident
  colons : Bool
  lt : Span
  gt : Span
  before : List GenericArg
  after : List GenericArg
  trailing : Bool

/-- The path with this type for the argument. -/
def OpenPath.fill (o : OpenPath) (t : Ty) : Path :=
  let args := o.before ++ GenericArg.ty t :: o.after
  .mk o.leading (o.front ++ [Segment.mk o.ident (.angle o.colons o.lt o.gt args o.trailing)])

/-- The same type with other wrappers around it, around what it refers to or is applied to, and with
wrapped types in its bounds. -/
inductive Ty.Rewraps : Ty → Ty → Prop
  | same {core t t' : Ty} (h : core.Wraps t) (h' : core.Wraps t') : Rewraps t t'
  | impl {word : Span} {bounds bounds' : List Bound} {trailing : Bool} {t t' : Ty}
      (h : (Ty.implTrait word bounds trailing).Wraps t)
      (h' : (Ty.implTrait word bounds' trailing).Wraps t')
      (inside : List.Forall₂ Bound.Rewraps bounds bounds') : Rewraps t t'
  | object {word : Option Span} {bounds bounds' : List Bound} {trailing : Bool} {t t' : Ty}
      (h : (Ty.traitObject word bounds trailing).Wraps t)
      (h' : (Ty.traitObject word bounds' trailing).Wraps t')
      (inside : List.Forall₂ Bound.Rewraps bounds bounds') : Rewraps t t'
  | reference {amp : Span} {lifetime : Option Lifetime} {mutable : Option Span} {u u' t t' : Ty}
      (h : (Ty.reference amp lifetime mutable u).Wraps t)
      (h' : (Ty.reference amp lifetime mutable u').Wraps t')
      (inside : Rewraps u u') : Rewraps t t'
  | applied {path : OpenPath} {u u' t t' : Ty} (h : (Ty.path (path.fill u)).Wraps t)
      (h' : (Ty.path (path.fill u')).Wraps t') (inside : Rewraps u u') : Rewraps t t'

/-- The same parameter with wrapped types in its bounds. -/
inductive GenericParam.Rewraps : GenericParam → GenericParam → Prop
  | same (p : GenericParam) : Rewraps p p
  | type {p : TypeParam} {bounds' : List Bound}
      (inside : List.Forall₂ Bound.Rewraps p.bounds bounds') :
      Rewraps (.type p) (.type { p with bounds := bounds' })

/-- The same condition with wrapped types in its bounds, and on a type with other wrappers. -/
inductive WherePredicate.Rewraps : WherePredicate → WherePredicate → Prop
  | same (p : WherePredicate) : Rewraps p p
  | type {binder : Option Binder} {core bounded bounded' : Ty} {bounds bounds' : List Bound}
      {trailing : Bool} (h : core.Wraps bounded) (h' : core.Wraps bounded')
      (inside : List.Forall₂ Bound.Rewraps bounds bounds') :
      Rewraps (.type binder bounded bounds trailing) (.type binder bounded' bounds' trailing)

/-- The same parameters, the last one with a rewrapped type. -/
inductive Signature.RewrapsLast (s s' : Signature) : Prop
  | same (inputs : s'.inputs = s.inputs)
  | last {leading : List FnArg} {attrs : List Attribute} {pat : Pat} {colon : Span} {t t' : Ty}
      (inputs : s.inputs = leading ++ [FnArg.typed attrs pat colon t])
      (inputs' : s'.inputs = leading ++ [FnArg.typed attrs pat colon t']) (h : t.Rewraps t')

/-- **The same signature with wrapped types**: in its last parameter, and in the bounds on its type
parameters. -/
structure Signature.Rewraps (s s' : Signature) : Prop where
  inputs : s.RewrapsLast s'
  output : s'.output = s.output
  params : List.Forall₂ GenericParam.Rewraps s.generics.params s'.generics.params
  predicates : List.Forall₂ WherePredicate.Rewraps s.generics.predicates s'.generics.predicates

/-- A path whose last segment returns `()`, but in parentheses or an invisible group. -/
inductive Path.HidesUnit : Path → Prop
  | mk {leading : Option Span} {front : List Segment} {ident : Ident} {span s : Span}
      {inputs : List Ty} {trailing comma : Bool} {output : Ty}
      (unit : (Ty.tuple s [] comma).Wraps output) (hidden : output ≠ .tuple s [] comma) :
      HidesUnit
        (.mk leading (front ++ [Segment.mk ident (.paren span inputs trailing (some output))]))

/-- A function trait that hides its `()`. -/
inductive Bound.HidesUnit : Bound → Prop
  | mk {paren modifier : Option Span} {binder : Option Binder} {p : Path}
      (names : (Bound.trait paren modifier binder p).NamesFn) (hides : p.HidesUnit) :
      HidesUnit (.trait paren modifier binder p)

/-! ## 2. Bounds -/

theorem returnsUnit_of_wrapped {output output' : Option Ty}
    (h : Option.Rel Ty.Wraps output output') (unit : returnsUnit output' = true) :
    returnsUnit output = true := by
  rcases returnsUnit_iff.mp unit with rfl | ⟨s, comma, rfl⟩
  · cases h with
    | none => rfl
  · cases h with
    | some h =>
      cases h with
      | bare => rfl

/-- Once a `()` is wrapped, it is not seen. -/
theorem not_returnsUnit_hidden {s : Span} {comma : Bool} {output : Ty}
    (unit : (Ty.tuple s [] comma).Wraps output) (hidden : output ≠ .tuple s [] comma) :
    returnsUnit (some output) = false := by
  cases unit with
  | bare => exact absurd rfl hidden
  | paren => rfl
  | group => rfl

namespace Path

theorem callbackValue?_call {leading : Option Span} {front : List Segment} {ident : Ident}
    {span : Span} {inputs : List Ty} {trailing : Bool} {output : Option Ty} {v : Ty} :
    (Path.mk leading
      (front ++ [Segment.mk ident (.paren span inputs trailing output)])).callbackValue? = some v ↔
      inputs = [v] ∧ returnsUnit output = true ∧ v.peel.isReference = false := by
  unfold callbackValue?
  rw [last?_concat]
  constructor
  · intro h
    split at h
    · rename_i last
      injection last with last
      injection last with _ last
      injection last with _ inputs _ output
      subst inputs output
      split at h
      · rename_i checked
        injection h with h
        subst h
        obtain ⟨unit, owned⟩ := Bool.and_eq_true_iff.mp checked
        exact ⟨rfl, unit, Bool.not_eq_true' _ ▸ owned⟩
      · nomatch h
    · nomatch h
  · intro h
    obtain ⟨rfl, unit, owned⟩ := h
    simp only [unit, owned, Bool.not_false, Bool.and_true, if_true]

theorem HidesUnit.callbackValue?_eq {p : Path} (h : p.HidesUnit) : p.callbackValue? = none := by
  cases h with
  | mk unit hidden =>
    refine Option.eq_none_iff_forall_ne_some.mpr fun v taken => ?_
    obtain ⟨-, returns, -⟩ := callbackValue?_call.mp taken
    rw [not_returnsUnit_hidden unit hidden] at returns
    nomatch returns

namespace Rewraps

variable {p p' : Path} {v v' : Ty}

/-- Wrappers never make a callback out of what is none. -/
theorem callbackValue?_of_wrapped (h : p.Rewraps p') (taken : p'.callbackValue? = some v') :
    ∃ v, p.callbackValue? = some v ∧ v.Wraps v' := by
  cases h with
  | same => exact ⟨v', taken, .bare⟩
  | call takes returns =>
    obtain ⟨rfl, unit, owned⟩ := callbackValue?_call.mp taken
    obtain ⟨v, rest, wrapped, none, rfl⟩ := List.forall₂_cons_right_iff.mp takes
    obtain rfl := List.forall₂_nil_right_iff.mp none
    rw [wrapped.peel_eq] at owned
    exact ⟨v, callbackValue?_call.mpr ⟨rfl, returnsUnit_of_wrapped returns unit, owned⟩, wrapped⟩

/-- A callback is seen through its wrappers, unless they hide its `()`. -/
theorem callbackValue?_of_shown (h : p.Rewraps p') (shown : ¬ p'.HidesUnit)
    (taken : p.callbackValue? = some v) : ∃ v', p'.callbackValue? = some v' ∧ v.Wraps v' := by
  cases h with
  | same => exact ⟨v, taken, .bare⟩
  | @call leading front ident span inputs inputs' trailing output output' takes returns =>
    obtain ⟨rfl, unit, owned⟩ := callbackValue?_call.mp taken
    obtain ⟨v', rest, wrapped, none, rfl⟩ := List.forall₂_cons_left_iff.mp takes
    obtain rfl := List.forall₂_nil_left_iff.mp none
    rw [← wrapped.peel_eq] at owned
    have unit' : returnsUnit output' = true := by
      cases returns with
      | none => rfl
      | @some r r' returned =>
        rcases returnsUnit_iff.mp unit with absent | ⟨s, comma, same⟩
        · nomatch absent
        · injection same with same
          subst same
          by_cases bare : r' = .tuple s [] comma
          · rw [bare]
            rfl
          · exact absurd (.mk returned bare) shown
    exact ⟨v', callbackValue?_call.mpr ⟨rfl, unit', owned⟩, wrapped⟩

end Rewraps

end Path

namespace Bound

theorem Rewraps.fnTrait?_rel {b b' : Bound} (h : b.Rewraps b') :
    Option.Rel Path.Rewraps b.fnTrait? b'.fnTrait? := by
  cases h with
  | lifetime l => exact .none
  | @trait paren modifier binder p p' h =>
    cases h with
    | same =>
      cases (Bound.trait paren modifier binder p).fnTrait? with
      | none => exact .none
      | some p => exact .some (.same p)
    | call takes returns =>
      unfold fnTrait?
      dsimp only
      rw [Path.last?_concat, Path.last?_concat]
      dsimp only
      split
      · exact .some (.call takes returns)
      · exact .none

theorem hidesUnit_iff {b : Bound} : b.HidesUnit ↔ ∃ p, b.fnTrait? = some p ∧ p.HidesUnit := by
  constructor
  · intro hidden
    obtain ⟨names, hides⟩ := hidden
    cases trait : (Bound.trait _ _ _ _).fnTrait? with
    | none => exact absurd names (fnTrait?_eq_none.mp trait)
    | some q =>
      obtain ⟨_, _, _, _, _, _, _, -, same, -⟩ := fnTrait?_eq_some trait
      injection same with _ _ _ same
      subst same
      exact ⟨_, rfl, hides⟩
  · intro found
    obtain ⟨p, trait, hides⟩ := found
    obtain ⟨_, _, _, _, _, _, _, rfl, rfl, named⟩ := fnTrait?_eq_some trait
    exact ⟨⟨named⟩, hides⟩

variable {bounds bounds' : List Bound} {v v' : Ty}

theorem filterMap_rewraps (h : List.Forall₂ Rewraps bounds bounds') :
    List.Forall₂ Path.Rewraps (bounds.filterMap fnTrait?) (bounds'.filterMap fnTrait?) :=
  List.rel_filterMap (fun _ _ h => h.fnTrait?_rel) h

theorem callbackValue?_of_wrapped (h : List.Forall₂ Rewraps bounds bounds')
    (taken : callbackValue? bounds' = some v') :
    ∃ v, callbackValue? bounds = some v ∧ v.Wraps v' := by
  have traits := filterMap_rewraps h
  unfold callbackValue? at taken ⊢
  split at taken
  · rename_i p' only
    rw [only] at traits
    obtain ⟨p, rest, wrapped, none, alone⟩ := List.forall₂_cons_right_iff.mp traits
    obtain rfl := List.forall₂_nil_right_iff.mp none
    rw [alone]
    exact wrapped.callbackValue?_of_wrapped taken
  · nomatch taken

theorem callbackValue?_of_shown (h : List.Forall₂ Rewraps bounds bounds')
    (shown : ∀ b ∈ bounds', ¬ b.HidesUnit) (taken : callbackValue? bounds = some v) :
    ∃ v', callbackValue? bounds' = some v' ∧ v.Wraps v' := by
  have traits := filterMap_rewraps h
  unfold callbackValue? at taken ⊢
  split at taken
  · rename_i p only
    rw [only] at traits
    obtain ⟨p', rest, wrapped, none, alone⟩ := List.forall₂_cons_left_iff.mp traits
    obtain rfl := List.forall₂_nil_left_iff.mp none
    obtain ⟨b, mem, trait⟩ := List.mem_filterMap.mp (alone ▸ List.mem_singleton_self p')
    rw [alone]
    refine wrapped.callbackValue?_of_shown (fun hides => shown b mem ?_) taken
    exact hidesUnit_iff.mpr ⟨p', trait, hides⟩
  · nomatch taken

theorem HidesUnit.callbackValue?_eq {b : Bound} (mem : b ∈ bounds) (hidden : b.HidesUnit) :
    callbackValue? bounds = none := by
  obtain ⟨p, trait, hides⟩ := hidesUnit_iff.mp hidden
  have found : p ∈ bounds.filterMap fnTrait? := List.mem_filterMap.mpr ⟨b, mem, trait⟩
  unfold callbackValue?
  split
  · rename_i q only
    rw [only, List.mem_singleton] at found
    subst found
    exact hides.callbackValue?_eq
  · rfl

end Bound

/-! ## 3. Mentions -/

theorem Ty.headsOf_rewraps {ts ts' : List Ty} (h : List.Forall₂ Ty.Wraps ts ts') :
    Ty.headsOf ts' = Ty.headsOf ts := by
  induction h with
  | nil => rfl
  | cons h _ ih => simp only [headsOf, h.heads_eq, ih]

theorem Segment.headsOf_append (front rest : List Segment) :
    headsOf (front ++ rest) = headsOf front ++ headsOf rest := by
  induction front with
  | nil => simp only [List.nil_append, headsOf]
  | cons seg front ih =>
    obtain ⟨ident, args⟩ := seg
    simp only [List.cons_append, headsOf, ih, List.append_assoc]

theorem Path.Rewraps.heads_eq {p p' : Path} (h : p.Rewraps p') : p'.heads = p.heads := by
  cases h with
  | same => rfl
  | @call leading front ident span inputs inputs' trailing output output' takes returns =>
    have args : (PathArgs.paren span inputs' trailing output').heads =
        (PathArgs.paren span inputs trailing output).heads := by
      cases returns with
      | none => simp only [PathArgs.heads, Ty.headsOf_rewraps takes]
      | some h => simp only [PathArgs.heads, Ty.headsOf_rewraps takes, h.heads_eq]
    cases front with
    | nil => simp only [heads, List.nil_append, Segment.headsOf, args]
    | cons seg front =>
      obtain ⟨first, firstArgs⟩ := seg
      simp only [heads, List.cons_append, Segment.headsOf, Segment.headsOf_append, args]

theorem Bound.Rewraps.heads_eq {b b' : Bound} (h : b.Rewraps b') : b'.heads = b.heads := by
  cases h with
  | lifetime l => rfl
  | trait h => simp only [heads, h.heads_eq]

theorem Bound.headsOf_rewraps {bounds bounds' : List Bound}
    (h : List.Forall₂ Bound.Rewraps bounds bounds') : headsOf bounds' = headsOf bounds := by
  induction h with
  | nil => rfl
  | cons h _ ih => simp only [headsOf, h.heads_eq, ih]

namespace Part

theorem headsOf_operator (text : String) : headsOf (operator text) = [] := headsOf_ofTokens _

/-- What stands between pieces mentions nothing. -/
theorem headsOf_punctuated (sep : String) (trailing : Bool) :
    ∀ xs : List (List Part), headsOf (punctuated sep trailing xs) = xs.flatMap headsOf
  | [] => by simp only [punctuated, withCommas, List.flatMap_nil, headsOf]
  | [x] => by
    cases trailing <;> simp [punctuated, withCommas, headsOf_append, headsOf_operator]
  | x :: next :: rest => by
    have ih := headsOf_punctuated sep trailing (next :: rest)
    simp only [punctuated] at ih
    simp only [punctuated, withCommas, List.flatMap_cons, headsOf_append, headsOf_operator, ih,
      if_true, List.append_nil]

theorem headsOf_bounds (sep : String) (trailing : Bool) (bounds : List Bound) :
    headsOf (punctuated sep trailing (bounds.map fun b => [.bound b])) = Bound.headsOf bounds := by
  rw [headsOf_punctuated]
  induction bounds with
  | nil => simp only [List.map_nil, List.flatMap_nil, Bound.headsOf]
  | cons b bounds ih =>
    simp only [List.map_cons, List.flatMap_cons, ih, headsOf, heads, Bound.headsOf,
      List.append_nil]

/-- Lists of pieces that mention the same, one by one. -/
theorem headsOf_flatMap_congr {α : Type} {R : α → α → Prop} {f : α → List Part} {xs ys : List α}
    (h : List.Forall₂ R xs ys) (same : ∀ x y, R x y → headsOf (f y) = headsOf (f x)) :
    headsOf (ys.flatMap f) = headsOf (xs.flatMap f) := by
  induction h with
  | nil => rfl
  | cons h _ ih => simp only [List.flatMap_cons, headsOf_append, same _ _ h, ih]

end Part

theorem headsOf_boundParts (bounds : List Bound) (trailing : Bool) :
    Part.headsOf (boundParts bounds trailing) = Bound.headsOf bounds := by
  cases bounds with
  | nil => simp only [boundParts, List.isEmpty_nil, if_true, Part.headsOf, Bound.headsOf]
  | cons b bounds =>
    simp only [boundParts, List.isEmpty_cons, Bool.false_eq_true, if_false, Part.headsOf_append,
      Part.headsOf_operator, Part.headsOf_bounds, List.nil_append]

theorem GenericParam.Rewraps.headsOf_eq {q q' : GenericParam} (h : q.Rewraps q') :
    Part.headsOf q'.parts = Part.headsOf q.parts := by
  cases h with
  | same => rfl
  | type inside =>
    simp only [parts, TypeParam.parts, TypeParam.boundedParts, Part.headsOf_append,
      headsOf_boundParts, Bound.headsOf_rewraps inside]

theorem WherePredicate.Rewraps.headsOf_eq {q q' : WherePredicate} (h : q.Rewraps q') :
    Part.headsOf q'.parts = Part.headsOf q.parts := by
  cases h with
  | same => rfl
  | type h h' inside =>
    simp only [parts, Part.headsOf_append, Part.headsOf_bounds, Bound.headsOf_rewraps inside,
      Part.headsOf, Part.heads, h.heads_eq, h'.heads_eq]

/-! ## 4. Type parameters -/

theorem Bound.Rewraps.refl (b : Bound) : b.Rewraps b := by
  cases b with
  | lifetime l => exact .lifetime l
  | trait paren modifier binder p => exact .trait (.same p)

theorem Bound.rewraps_refl (bounds : List Bound) : List.Forall₂ Bound.Rewraps bounds bounds :=
  List.forall₂_same.mpr fun b _ => .refl b

/-- A type parameter with wrapped types in its bounds. -/
def TypeParam.Rewraps (p p' : TypeParam) : Prop :=
  p'.ident = p.ident ∧ List.Forall₂ Bound.Rewraps p.bounds p'.bounds

namespace GenericParam.Rewraps

variable {q q' : GenericParam}

theorem type?_rel (h : q.Rewraps q') : Option.Rel TypeParam.Rewraps q.type? q'.type? := by
  cases h with
  | same =>
    cases q with
    | type p => exact .some ⟨rfl, Bound.rewraps_refl _⟩
    | _ => exact .none
  | type inside => exact .some ⟨rfl, inside⟩

theorem isTypeNamed_eq (h : q.Rewraps q') (name : Ident) :
    q'.isTypeNamed name = q.isTypeNamed name := by
  cases h <;> rfl

end GenericParam.Rewraps

theorem Ty.Wraps.isName_eq {core t t' : Ty} (h : core.Wraps t) (h' : core.Wraps t') (name : Ident) :
    t'.isName name = t.isName name := by
  simp only [isName, h.peel_eq, h'.peel_eq]

namespace WherePredicate.Rewraps

variable {q q' : WherePredicate}

theorem boundsName_eq (h : q.Rewraps q') (name : Ident) :
    q'.boundsName name = q.boundsName name := by
  cases h with
  | same => rfl
  | type h h' inside => exact h.isName_eq h' name

theorem boundsOn_rel (h : q.Rewraps q') (name : Ident) :
    List.Forall₂ Bound.Rewraps (q.boundsOn name) (q'.boundsOn name) := by
  cases h with
  | same => exact Bound.rewraps_refl _
  | type h h' inside =>
    simp only [boundsOn, h.isName_eq h' name]
    split
    · exact inside
    · exact .nil

end WherePredicate.Rewraps

theorem find?_rel {α : Type} {R : α → α → Prop} {p : α → Bool} {xs ys : List α}
    (h : List.Forall₂ R xs ys) (same : ∀ x y, R x y → p y = p x) :
    Option.Rel R (xs.find? p) (ys.find? p) := by
  induction h with
  | nil => exact .none
  | @cons x y xs ys h _ ih =>
    rw [List.find?_cons, List.find?_cons, same x y h]
    cases p x with
    | true => exact .some h
    | false => exact ih

namespace Signature.Rewraps

section

variable {s s' : Signature} (h : s.Rewraps s') (name : Ident)
include h

theorem leading_eq : s'.inputs.dropLast = s.inputs.dropLast := by
  cases h.inputs with
  | same inputs => rw [inputs]
  | last inputs inputs' _ => rw [inputs, inputs', List.dropLast_concat, List.dropLast_concat]

theorem param_rel :
    Option.Rel TypeParam.Rewraps (s.generics.typeParams.find? fun q => q.ident.same name)
      (s'.generics.typeParams.find? fun q => q.ident.same name) := by
  have params := List.rel_filterMap (fun _ _ h => GenericParam.Rewraps.type?_rel h) h.params
  refine find?_rel params fun p p' wrapped => ?_
  rw [wrapped.1]

theorem boundsOn_rel {p p' : TypeParam} (wrapped : p.Rewraps p') :
    List.Forall₂ Bound.Rewraps (s.boundsOn p name) (s'.boundsOn p' name) := by
  refine List.rel_append wrapped.2 ?_
  exact List.rel_flatMap h.predicates fun _ _ h => h.boundsOn_rel name

/-- Wrappers change nothing about where a name occurs. -/
theorem mention_elsewhere_eq :
    Part.mention (s'.elsewhere name) name = Part.mention (s.elsewhere name) name := by
  have params : List.Forall₂ GenericParam.Rewraps
      (s.generics.params.filter (!·.isTypeNamed name))
      (s'.generics.params.filter (!·.isTypeNamed name)) := by
    refine List.rel_filter (fun q q' h => ?_) h.params
    dsimp only
    rw [h.isTypeNamed_eq name]
  have predicates : List.Forall₂ WherePredicate.Rewraps
      (s.generics.predicates.filter (!·.boundsName name))
      (s'.generics.predicates.filter (!·.boundsName name)) := by
    refine List.rel_filter (fun q q' h => ?_) h.predicates
    dsimp only
    rw [h.boundsName_eq name]
  have returned : s'.outputParts = s.outputParts := by
    unfold outputParts
    rw [h.output]
  simp only [Part.mention, elsewhere, Part.headsOf_append, h.leading_eq, returned,
    Part.headsOf_flatMap_congr params fun _ _ h => h.headsOf_eq,
    Part.headsOf_flatMap_congr predicates fun _ _ h => h.headsOf_eq]

end

end Signature.Rewraps

/-- A type parameter that is used nowhere else asks for a callback with all the bounds on it. -/
theorem Signature.spelled_of_param {s : Signature} {leading : List FnArg} {attrs : List Attribute}
    {pat : Pat} {colon : Span} {t : Ty} {name : Ident} {p : TypeParam}
    (inputs : s.inputs = leading ++ [FnArg.typed attrs pat colon t])
    (wrapped : (Ty.path (.mk none [.mk name .none])).Wraps t)
    (found : s.generics.typeParams.find? (fun q => q.ident.same name) = some p)
    (unmentioned : Part.mention (s.elsewhere name) name = false) :
    Spelled (s.boundsOn p name) leading s.output s .direct (some p.ident) := by
  obtain ⟨before, after, declared, named, first⟩ := Generics.find?_typeParams.mp found
  obtain ⟨notLeading, notOutput, others, conditions⟩ := mention_elsewhere.mp unmentioned
  rw [inputs, List.dropLast_concat] at notLeading
  exact .parameter inputs rfl wrapped declared named first others
    (boundedBy_of_unmentioned conditions) (.refl _) notLeading notOutput

/-- One that is not declared, or is used elsewhere, asks for none. -/
theorem Signature.callback?_of_unfit {s : Signature} {leading : List FnArg}
    {attrs : List Attribute} {pat : Pat} {colon : Span} {t : Ty} {name : Ident}
    (inputs : s.inputs = leading ++ [FnArg.typed attrs pat colon t])
    (plain : ∀ arg ∈ leading, ¬ arg.IsTypedSelf)
    (wrapped : (Ty.path (.mk none [.mk name .none])).Wraps t)
    (unfit : s.generics.typeParams.find? (fun q => q.ident.same name) = none ∨
      Part.mention (s.elsewhere name) name = true) : s.callback? = none := by
  have asked : s.callbackOfTy? t = s.genericCallback? (.mk none [.mk name .none]) := by
    unfold callbackOfTy?
    rw [wrapped.peel_eq]
    rfl
  rw [callback?_eq inputs plain, asked]
  refine Option.eq_none_iff_forall_ne_some.mpr fun c found => ?_
  obtain ⟨name', p, same, declared, unmentioned, -, -⟩ := genericCallback?_eq_some found
  injection same with _ same
  injection same with same _
  injection same with same _
  subst same
  rcases unfit with absent | mentioned
  · rw [absent] at declared
    nomatch declared
  · rw [mentioned] at unmentioned
    nomatch unmentioned

/-! ## 5. What is asked for -/

theorem Ty.Wraps.trans {inner t u : Ty} (h : inner.Wraps t) (h' : t.Wraps u) : inner.Wraps u := by
  induction h' with
  | bare => exact h
  | paren s _ ih => exact .paren s ih
  | group s _ ih => exact .group s ih

theorem Ty.peel_peel : ∀ t : Ty, t.peel.peel = t.peel
  | .paren _ t => peel_peel t
  | .group _ t => peel_peel t
  | .path _ | .reference _ _ _ _ | .implTrait _ _ _ | .traitObject _ _ _ | .tuple _ _ _
  | .other _ _ => rfl

/-- Rewrapped types are trait objects with the same bounds up to wrappers, or neither is one. -/
theorem Ty.Rewraps.isObject {t t' : Ty} (h : t.Rewraps t') :
    (∃ bounds bounds', t.IsObject bounds ∧ t'.IsObject bounds' ∧
      List.Forall₂ Bound.Rewraps bounds bounds') ∨
    ((∀ bounds, ¬ t.IsObject bounds) ∧ ∀ bounds, ¬ t'.IsObject bounds) := by
  -- All but a trait object is told from one by its constructor.
  have other : ∀ {core core' : Ty}, core.Wraps t → core'.Wraps t' → core.peel = core →
      core'.peel = core' → (∀ word bounds trailing, core ≠ .traitObject word bounds trailing) →
      (∀ word bounds trailing, core' ≠ .traitObject word bounds trailing) →
      (∀ bounds, ¬ t.IsObject bounds) ∧ ∀ bounds, ¬ t'.IsObject bounds := by
    intro core core' h h' bare bare' no no'
    constructor
    · intro bounds object
      obtain ⟨word, trailing, found⟩ := isObject_iff.mp object
      exact no word bounds trailing (bare.symm.trans (h.peel_eq.symm.trans found))
    · intro bounds object
      obtain ⟨word, trailing, found⟩ := isObject_iff.mp object
      exact no' word bounds trailing (bare'.symm.trans (h'.peel_eq.symm.trans found))
  cases h with
  | @same core _ _ h h' =>
    by_cases object : ∃ bounds, t.IsObject bounds
    · obtain ⟨bounds, object⟩ := object
      obtain ⟨word, trailing, found⟩ := isObject_iff.mp object
      rw [h.peel_eq, ← h'.peel_eq] at found
      exact .inl ⟨bounds, bounds, object, isObject_iff.mpr ⟨word, trailing, found⟩,
        Bound.rewraps_refl bounds⟩
    · refine .inr ⟨not_exists.mp object, fun bounds object' => object ⟨bounds, ?_⟩⟩
      obtain ⟨word, trailing, found⟩ := isObject_iff.mp object'
      rw [h'.peel_eq, ← h.peel_eq] at found
      exact isObject_iff.mpr ⟨word, trailing, found⟩
  | object h h' inside => exact .inl ⟨_, _, ⟨_, _, h⟩, ⟨_, _, h'⟩, inside⟩
  | impl h h' _ => exact .inr (other h h' rfl rfl nofun nofun)
  | reference h h' _ => exact .inr (other h h' rfl rfl nofun nofun)
  | applied h h' _ => exact .inr (other h h' rfl rfl nofun nofun)

namespace OpenPath

variable (path : OpenPath)

/-- The argument is found whatever it is, or never. -/
theorem unwrap?_fill (wrapper : String) (u u' : Ty) :
    (Ty.unwrap? wrapper (.path (path.fill u)) = some u ∧
      Ty.unwrap? wrapper (.path (path.fill u')) = some u') ∨
    (Ty.unwrap? wrapper (.path (path.fill u)) = none ∧
      Ty.unwrap? wrapper (.path (path.fill u')) = none) := by
  unfold Ty.unwrap? fill
  dsimp only
  rw [Path.last?_concat, Path.last?_concat]
  dsimp only
  split
  · unfold GenericArg.singleTy?
    rw [List.filterMap_append, List.filterMap_append, List.filterMap_cons, List.filterMap_cons]
    dsimp only
    cases path.before.filterMap _ with
    | nil =>
      cases path.after.filterMap _ with
      | nil => exact .inl ⟨rfl, rfl⟩
      | cons => exact .inr ⟨rfl, rfl⟩
    | cons _ rest =>
      cases rest with
      | nil => exact .inr ⟨rfl, rfl⟩
      | cons => exact .inr ⟨rfl, rfl⟩
  · exact .inr ⟨rfl, rfl⟩

theorem single?_fill (u : Ty) : (path.fill u).single? = none := by
  refine Option.eq_none_iff_forall_ne_some.mpr fun name found => ?_
  have last := congrArg Path.last? (Path.single?_eq_some.mp found)
  rw [fill, Path.last?_concat] at last
  nomatch last

end OpenPath

/-- A type that neither states the bounds of a callback nor is just a name. -/
structure Ty.Unasked (core : Ty) : Prop where
  bare : core.peel = core
  asks : ∀ bounds passing, ¬ core.Asks bounds passing
  name : ∀ name, core ≠ .path (.mk none [.mk name .none])

namespace Ty.Unasked

variable {u : Ty} {p : Path}

theorem reference {amp : Span} {lifetime : Option Lifetime} {mutable : Option Span}
    (other : ∀ bounds, ¬ u.IsObject bounds) : (Ty.reference amp lifetime mutable u).Unasked := by
  refine ⟨rfl, fun bounds passing asks => ?_, nofun⟩
  cases asks with
  | boxed box _ => nomatch box
  | ref _ _ object => exact other _ object
  | refMut _ _ _ object => exact other _ object

theorem box (box : (Ty.path p).unwrap? "Box" = some u) (other : ∀ bounds, ¬ u.IsObject bounds) :
    (Ty.path p).Unasked := by
  refine ⟨rfl, fun bounds passing asks => ?_, fun name same => ?_⟩
  · cases asks with
    | boxed applies object =>
      rw [Ty.unwrap?_eq_some.mpr applies] at box
      injection box with same
      subst same
      exact other _ object
  · injection same with same
    subst same
    nomatch box

theorem path (box : (Ty.path p).unwrap? "Box" = none) (single : p.single? = none) :
    (Ty.path p).Unasked := by
  refine ⟨rfl, fun bounds passing asks => ?_, fun name same => ?_⟩
  · cases asks with
    | boxed applies _ =>
      rw [Ty.unwrap?_eq_some.mpr applies] at box
      nomatch box
  · injection same with same
    rw [Path.single?_eq_some.mpr same] at single
    nomatch single

/-- Such a type asks for no callback. -/
theorem callbackOfTy?_eq {s : Signature} {t core : Ty} (h : core.Unasked) (wrapped : core.Wraps t) :
    s.callbackOfTy? t = none := by
  refine Option.eq_none_iff_forall_ne_some.mpr fun c found => ?_
  have peeled : ∀ {written : Ty}, written.Wraps t → written.peel = written → core = written := by
    intro written wraps bare
    rw [← h.bare, ← wrapped.peel_eq, wraps.peel_eq, bare]
  rcases Signature.asks_of_callbackOfTy? found with ⟨_, _, wraps, asks, -, -⟩ | ⟨p, wraps, generic⟩
  · obtain rfl := peeled wraps asks.peel_eq
    exact h.asks _ _ asks
  · obtain ⟨name, _, rfl, -⟩ := Signature.genericCallback?_eq_some generic
    exact h.name name (peeled wraps rfl)

end Ty.Unasked

/-- **Two functions that are answered alike**: both ask for a callback in the same way, with the
same bounds up to wrappers, or neither has one. -/
def Signature.AskAlike (s s' : Signature) : Prop :=
  (s.callback? = none ∧ s'.callback? = none) ∨
  ∃ bounds bounds' leading passing generic, (∀ arg ∈ leading, ¬ arg.IsTypedSelf) ∧
    List.Forall₂ Bound.Rewraps bounds bounds' ∧ Spelled bounds leading s.output s passing generic ∧
    Spelled bounds' leading s'.output s' passing generic

namespace Signature.AskAlike

section

variable {s s' : Signature} {leading : List FnArg} {attrs : List Attribute} {pat : Pat}
  {colon : Span} {t t' : Ty}
  (inputs : s.inputs = leading ++ [FnArg.typed attrs pat colon t])
  (inputs' : s'.inputs = leading ++ [FnArg.typed attrs pat colon t'])
  (plain : ∀ arg ∈ leading, ¬ arg.IsTypedSelf)
include inputs inputs' plain

theorem onTheSpot {core core' : Ty} (h : core.Wraps t) (h' : core'.Wraps t')
    {bounds bounds' : List Bound} {passing : Passing} (asks : core.Asks bounds passing)
    (asks' : core'.Asks bounds' passing) (inside : List.Forall₂ Bound.Rewraps bounds bounds') :
    s.AskAlike s' :=
  .inr ⟨bounds, bounds', leading, passing, none, plain, inside, .onTheSpot inputs rfl h asks,
    .onTheSpot inputs' rfl h' asks'⟩

theorem unasked {core core' : Ty} (h : core.Wraps t) (h' : core'.Wraps t')
    (none : core.Unasked) (none' : core'.Unasked) : s.AskAlike s' := by
  refine .inl ⟨?_, ?_⟩
  · rw [callback?_eq inputs plain, none.callbackOfTy?_eq h]
  · rw [callback?_eq inputs' plain, none'.callbackOfTy?_eq h']

/-- Only what is referred to counts. -/
theorem reference {amp : Span} {lifetime : Option Lifetime} {mutable : Option Span} {u u' : Ty}
    (h : (Ty.reference amp lifetime mutable u).Wraps t)
    (h' : (Ty.reference amp lifetime mutable u').Wraps t') (inside : u.Rewraps u') :
    s.AskAlike s' := by
  rcases inside.isObject with ⟨bounds, bounds', object, object', wrapped⟩ | ⟨other, other'⟩
  · cases mutable with
    | none => exact onTheSpot inputs inputs' plain h h' (.ref _ _ object) (.ref _ _ object') wrapped
    | some word =>
      exact onTheSpot inputs inputs' plain h h' (.refMut _ _ _ object) (.refMut _ _ _ object')
        wrapped
  · exact unasked inputs inputs' plain h h' (.reference other) (.reference other')

/-- Only what is in the box counts. -/
theorem boxed {p p' : Path} {u u' : Ty} (h : (Ty.path p).Wraps t) (h' : (Ty.path p').Wraps t')
    (box : (Ty.path p).unwrap? "Box" = some u) (box' : (Ty.path p').unwrap? "Box" = some u')
    (inside : u.Rewraps u') : s.AskAlike s' := by
  rcases inside.isObject with ⟨bounds, bounds', object, object', wrapped⟩ | ⟨other, other'⟩
  · exact onTheSpot inputs inputs' plain h h' (.boxed (Ty.unwrap?_eq_some.mp box) object)
      (.boxed (Ty.unwrap?_eq_some.mp box') object') wrapped
  · exact unasked inputs inputs' plain h h' (.box box other) (.box box' other')

/-- The bounds on a type parameter count, and where else its name occurs. -/
theorem parameter (wrapped : s.Rewraps s') {name : Ident}
    (h : (Ty.path (.mk none [.mk name .none])).Wraps t)
    (h' : (Ty.path (.mk none [.mk name .none])).Wraps t') : s.AskAlike s' := by
  have mention := wrapped.mention_elsewhere_eq name
  have params := wrapped.param_rel name
  cases found : s.generics.typeParams.find? (fun q => q.ident.same name) with
  | none =>
    cases found' : s'.generics.typeParams.find? (fun q => q.ident.same name) with
    | none => exact .inl ⟨callback?_of_unfit inputs plain h (.inl found),
        callback?_of_unfit inputs' plain h' (.inl found')⟩
    | some p' =>
      rw [found, found'] at params
      nomatch params
  | some p =>
    cases found' : s'.generics.typeParams.find? (fun q => q.ident.same name) with
    | none =>
      rw [found, found'] at params
      nomatch params
    | some p' =>
      rw [found, found'] at params
      cases params with
      | some same =>
        cases unmentioned : Part.mention (s.elsewhere name) name with
        | true =>
          rw [unmentioned] at mention
          exact .inl ⟨callback?_of_unfit inputs plain h (.inr unmentioned),
            callback?_of_unfit inputs' plain h' (.inr mention)⟩
        | false =>
          rw [unmentioned] at mention
          refine .inr ⟨_, _, leading, .direct, some p.ident, plain, wrapped.boundsOn_rel name same,
            spelled_of_param inputs h found unmentioned, ?_⟩
          have spelled := spelled_of_param inputs' h' found' mention
          rw [same.1] at spelled
          exact spelled

/-- Wrappers around the whole type do not count. -/
theorem same (wrapped : s.Rewraps s') {core : Ty} (h : core.Wraps t) (h' : core.Wraps t') :
    s.AskAlike s' := by
  have bare := core.peel_peel
  replace h := core.wraps_peel.trans h
  replace h' := core.wraps_peel.trans h'
  cases peeled : core.peel with
  | implTrait word bounds trailing =>
    rw [peeled] at h h'
    exact onTheSpot inputs inputs' plain h h' (.impl _ _) (.impl _ _) (Bound.rewraps_refl bounds)
  | reference amp lifetime mutable u =>
    rw [peeled] at h h'
    exact reference inputs inputs' plain h h' (.same .bare .bare)
  | path p =>
    rw [peeled] at h h'
    cases box : (Ty.path p).unwrap? "Box" with
    | some u => exact boxed inputs inputs' plain h h' box box (.same .bare .bare)
    | none =>
      cases single : p.single? with
      | some name =>
        obtain rfl := Path.single?_eq_some.mp single
        exact parameter inputs inputs' plain wrapped h h'
      | none =>
        exact unasked inputs inputs' plain h h' (.path box single) (.path box single)
  | _ =>
    have none : core.peel.Unasked := by
      rw [peeled] at bare ⊢
      refine ⟨bare, fun bounds passing asks => ?_, nofun⟩
      cases asks with
      | boxed box _ => nomatch box
    exact unasked inputs inputs' plain h h' none none

/-- **Rewrapped types ask alike.** -/
theorem of_rewraps (wrapped : s.Rewraps s') (h : t.Rewraps t') : s.AskAlike s' := by
  cases h with
  | same h h' => exact same inputs inputs' plain wrapped h h'
  | impl h h' inside => exact onTheSpot inputs inputs' plain h h' (.impl _ _) (.impl _ _) inside
  | object h h' inside =>
    have none : ∀ {word : Option Span} {bounds : List Bound} {trailing : Bool},
        (Ty.traitObject word bounds trailing).Unasked := by
      intro word bounds trailing
      refine ⟨rfl, fun bounds passing asks => ?_, nofun⟩
      cases asks with
      | boxed box _ => nomatch box
    exact unasked inputs inputs' plain h h' none none
  | reference h h' inside => exact reference inputs inputs' plain h h' inside
  | @applied path u u' _ _ h h' inside =>
    rcases path.unwrap?_fill "Box" u u' with ⟨box, box'⟩ | ⟨box, box'⟩
    · exact boxed inputs inputs' plain h h' box box' inside
    · exact unasked inputs inputs' plain h h' (.path box (path.single?_fill u))
        (.path box' (path.single?_fill u'))

end

end Signature.AskAlike

/-! ## 6. What becomes of a callback -/

/-- Behind a `self` with a type there is no callback. -/
theorem Signature.callback?_of_typedSelf {s : Signature} {leading : List FnArg}
    {attrs : List Attribute} {pat : Pat} {colon : Span} {t : Ty}
    (inputs : s.inputs = leading ++ [FnArg.typed attrs pat colon t])
    (typed : ¬ ∀ arg ∈ leading, ¬ arg.IsTypedSelf) : s.callback? = none := by
  refine Option.eq_none_iff_forall_ne_some.mpr fun c found => typed ?_
  obtain ⟨leading', _, _, _, _, inputs', plain, -⟩ := callback?_eq_some found
  obtain ⟨same, -⟩ := List.append_inj' (inputs.symm.trans inputs') rfl
  rw [same]
  exact plain

namespace Signature.Rewraps

variable {s s' : Signature}

theorem askAlike (h : s.Rewraps s') : s.AskAlike s' := by
  have ofLast : ∀ {leading : List FnArg} {attrs : List Attribute} {pat : Pat} {colon : Span}
      {t t' : Ty}, s.inputs = leading ++ [FnArg.typed attrs pat colon t] →
      s'.inputs = leading ++ [FnArg.typed attrs pat colon t'] → t.Rewraps t' → s.AskAlike s' := by
    intro leading attrs pat colon t t' inputs inputs' wrapped
    by_cases plain : ∀ arg ∈ leading, ¬ arg.IsTypedSelf
    · exact .of_rewraps inputs inputs' plain h wrapped
    · exact .inl ⟨callback?_of_typedSelf inputs plain, callback?_of_typedSelf inputs' plain⟩
  cases h.inputs with
  | last inputs inputs' wrapped => exact ofLast inputs inputs' wrapped
  | same inputs =>
    cases found : s.callback? with
    | some c =>
      obtain ⟨leading, attrs, pat, colon, t, typed, -, -⟩ := callback?_eq_some found
      exact ofLast typed (inputs.trans typed) (.same .bare .bare)
    | none =>
      cases found' : s'.callback? with
      | some c =>
        obtain ⟨leading, attrs, pat, colon, t, typed, -, -⟩ := callback?_eq_some found'
        exact ofLast (inputs.symm.trans typed) typed (.same .bare .bare)
      | none => exact .inl ⟨found, found'⟩

/-- **What becomes of a callback once its types are wrapped.** None is made up. One that there is
gets lost exactly if the result of its function trait is a wrapped `()`. Otherwise its value is the
same up to wrappers, it is passed as before, and the same type parameter stands for it. -/
theorem callback?_told (h : s.Rewraps s') :
    (s.callback? = none → s'.callback? = none) ∧
    ∀ c, s.callback? = some c →
      (s'.callback? = none ↔ ∃ outer b, s'.BoundsCallback c.generic outer b ∧ b.HidesUnit) ∧
      ∀ c', s'.callback? = some c' →
        c.value.Wraps c'.value ∧ c'.passing = c.passing ∧ c'.generic = c.generic := by
  rcases h.askAlike with ⟨none, none'⟩ |
    ⟨bounds, bounds', leading, passing, generic, plain, wrapped, spelled, spelled'⟩
  · refine ⟨fun _ => none', fun c found => ?_⟩
    rw [none] at found
    nomatch found
  · rw [spelled.callback?_eq plain, spelled'.callback?_eq plain]
    constructor
    · intro none
      rw [Option.map_eq_none_iff] at none ⊢
      refine Option.eq_none_iff_forall_ne_some.mpr fun v' taken => ?_
      obtain ⟨v, taken, -⟩ := Bound.callbackValue?_of_wrapped wrapped taken
      rw [none] at taken
      nomatch taken
    · intro c found
      obtain ⟨v, taken, rfl⟩ := Option.map_eq_some_iff.mp found
      refine ⟨⟨fun none => ?_, fun hides => ?_⟩, fun c' found' => ?_⟩
      · by_contra shown
        have all : ∀ b ∈ bounds', ¬ b.HidesUnit := by
          intro b mem hides
          obtain ⟨outer, stated⟩ := spelled'.boundsCallback_iff.mpr mem
          exact shown ⟨outer, b, stated, hides⟩
        obtain ⟨v', taken', -⟩ := Bound.callbackValue?_of_shown wrapped all taken
        rw [taken'] at none
        nomatch none
      · obtain ⟨outer, b, stated, hides⟩ := hides
        have mem := spelled'.boundsCallback_iff.mp ⟨outer, stated⟩
        rw [hides.callbackValue?_eq mem]
        rfl
      · obtain ⟨v', taken', rfl⟩ := Option.map_eq_some_iff.mp found'
        obtain ⟨w, takenFrom, same⟩ := Bound.callbackValue?_of_wrapped wrapped taken'
        rw [taken] at takenFrom
        injection takenFrom with takenFrom
        subst takenFrom
        exact ⟨same, rfl, rfl⟩

end Signature.Rewraps

end Graft
