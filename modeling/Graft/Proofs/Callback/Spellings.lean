import Graft.Proofs.Tree.TypeShapes

/-!
# Spellings of a callback

A callback may be asked for by a type that states its bounds on the spot, or by a type parameter
whose bounds stand where it is declared and in the `where` clause. What is recognised depends on the
bounds alone.

* `CallbackValue`: among bounds, exactly one is a function trait, and it takes this value.
* `Spelled`: the ways to ask for a callback with these bounds; `Spelled.callback?_eq` tells what is
  recognised, and `Signature.spelled_of_callback?` that nothing else is.
* **`callback_spelling_irrelevant`**: all spellings of the same bounds are answered alike.
-/

namespace Graft

/-! ## 1. Bounds -/

/-- The traits of functions. -/
def Ident.IsFnTrait (i : Ident) : Prop := i.text = "Fn" ∨ i.text = "FnMut" ∨ i.text = "FnOnce"

/-- A bound that names a function trait by its last segment. -/
inductive Bound.NamesFn : Bound → Prop
  | mk {paren modifier leading : Option Span} {binder : Option Binder} {front : List Segment}
      {ident : Ident} {args : PathArgs} (named : ident.IsFnTrait) :
      NamesFn (.trait paren modifier binder (.mk leading (front ++ [.mk ident args])))

/-- A function trait with one argument, which is no reference, and without a result. -/
inductive Bound.Takes (value : Ty) : Bound → Prop
  | mk {paren modifier leading : Option Span} {binder : Option Binder} {front : List Segment}
      {ident : Ident} {span : Span} {trailing : Bool} {output : Option Ty}
      (named : ident.IsFnTrait)
      (unit : output = none ∨ ∃ s comma, output = some (.tuple s [] comma))
      (owned : ¬ value.IsReference) :
      Takes value (.trait paren modifier binder
        (.mk leading (front ++ [.mk ident (.paren span [value] trailing output)])))

/-- **The value of a callback**: exactly one of its bounds is a function trait, and it takes this
value. -/
def CallbackValue (bounds : List Bound) (value : Ty) : Prop :=
  ∃ before b after, bounds = before ++ b :: after ∧ b.Takes value ∧
    ∀ other ∈ before ++ after, ¬ other.NamesFn

theorem Ident.isFnTrait_iff {i : Ident} :
    ["Fn", "FnMut", "FnOnce"].contains i.text = true ↔ i.IsFnTrait := by
  simp [IsFnTrait]

theorem returnsUnit_iff {output : Option Ty} : returnsUnit output = true ↔
    output = none ∨ ∃ s comma, output = some (.tuple s [] comma) := by
  constructor
  · intro h
    unfold returnsUnit at h
    split at h
    · exact .inl rfl
    · exact .inr ⟨_, _, rfl⟩
    · nomatch h
  · rintro (rfl | ⟨s, comma, rfl⟩) <;> rfl

namespace Bound

theorem fnTrait?_eq_some {b : Bound} {p : Path} (h : b.fnTrait? = some p) :
    ∃ paren modifier binder leading front ident args, p = .mk leading (front ++ [.mk ident args]) ∧
      b = .trait paren modifier binder p ∧ ident.IsFnTrait := by
  cases b with
  | lifetime l => nomatch h
  | trait paren modifier binder path =>
    unfold fnTrait? at h
    dsimp only at h
    split at h
    · rename_i ident args last
      obtain ⟨leading, front, rfl⟩ := Path.last?_eq_some.mp last
      split at h
      · rename_i named
        injection h with h
        subst h
        exact ⟨paren, modifier, binder, leading, front, ident, args, rfl, rfl,
          Ident.isFnTrait_iff.mp named⟩
      · nomatch h
    · nomatch h

theorem fnTrait?_trait {paren modifier leading : Option Span} {binder : Option Binder}
    {front : List Segment} {ident : Ident} {args : PathArgs} (named : ident.IsFnTrait) :
    (Bound.trait paren modifier binder (.mk leading (front ++ [.mk ident args]))).fnTrait? =
      some (.mk leading (front ++ [.mk ident args])) := by
  unfold fnTrait?
  dsimp only
  rw [Path.last?_concat]
  exact if_pos (Ident.isFnTrait_iff.mpr named)

theorem fnTrait?_eq_none {b : Bound} : b.fnTrait? = none ↔ ¬ b.NamesFn := by
  constructor
  · rintro h ⟨named⟩
    rw [fnTrait?_trait named] at h
    nomatch h
  · intro other
    cases h : b.fnTrait? with
    | none => rfl
    | some p =>
      obtain ⟨_, _, _, _, _, _, _, rfl, rfl, named⟩ := fnTrait?_eq_some h
      exact absurd ⟨named⟩ other

theorem takes_iff {b : Bound} {value : Ty} :
    b.Takes value ↔ ∃ p, b.fnTrait? = some p ∧ p.callbackValue? = some value := by
  constructor
  · rintro ⟨named, unit, owned⟩
    refine ⟨_, fnTrait?_trait named, ?_⟩
    have reference : value.peel.isReference = false := by
      rw [← Bool.not_eq_true, Ty.isReference_peel]
      exact owned
    unfold Path.callbackValue?
    rw [Path.last?_concat]
    simp only [returnsUnit_iff.mpr unit, reference, Bool.not_false, Bool.and_true, if_true]
  · rintro ⟨p, trait, taken⟩
    obtain ⟨_, _, _, _, _, _, args, rfl, rfl, named⟩ := fnTrait?_eq_some trait
    unfold Path.callbackValue? at taken
    rw [Path.last?_concat] at taken
    split at taken
    · rename_i last
      injection last with last
      injection last with _ last
      subst last
      split at taken
      · rename_i checked
        injection taken with taken
        subst taken
        obtain ⟨unit, reference⟩ := Bool.and_eq_true_iff.mp checked
        refine .mk named (returnsUnit_iff.mp unit) fun h => ?_
        rw [Ty.isReference_peel.mpr h] at reference
        nomatch reference
      · nomatch taken
    · nomatch taken

theorem callbackValue?_eq_some {bounds : List Bound} {value : Ty} :
    callbackValue? bounds = some value ↔ CallbackValue bounds value := by
  constructor
  · intro h
    unfold callbackValue? at h
    split at h
    · rename_i p only
      obtain ⟨before, b, after, rfl, none, trait, rest⟩ := List.filterMap_eq_cons_iff.mp only
      rw [List.filterMap_eq_nil_iff] at rest
      refine ⟨before, b, after, rfl, takes_iff.mpr ⟨p, trait, h⟩, fun other mem => ?_⟩
      rcases List.mem_append.mp mem with mem | mem
      · exact fnTrait?_eq_none.mp (none other mem)
      · exact fnTrait?_eq_none.mp (rest other mem)
    · nomatch h
  · rintro ⟨before, b, after, rfl, takes, others⟩
    obtain ⟨p, trait, value⟩ := takes_iff.mp takes
    have only : (before ++ b :: after).filterMap fnTrait? = [p] := by
      refine List.filterMap_eq_cons_iff.mpr ⟨before, b, after, rfl, ?_, trait, ?_⟩
      · exact fun other mem => fnTrait?_eq_none.mpr (others other (List.mem_append_left _ mem))
      · refine List.filterMap_eq_nil_iff.mpr fun other mem => ?_
        exact fnTrait?_eq_none.mpr (others other (List.mem_append_right _ mem))
    unfold callbackValue?
    rw [only]
    exact value

/-- The order of bounds does not matter. -/
theorem callbackValue?_perm {bounds others : List Bound} (h : bounds.Perm others) :
    callbackValue? bounds = callbackValue? others := by
  have perm := h.filterMap fnTrait?
  unfold callbackValue?
  split
  · rename_i p only
    rw [only] at perm
    rw [List.perm_singleton.mp perm.symm]
  · rename_i several
    split
    · rename_i p only
      rw [only] at perm
      exact absurd (List.perm_singleton.mp perm) (several p)
    · rfl

end Bound

/-! ## 2. Spellings -/

/-- A parameter that is `self` with a type. -/
inductive FnArg.IsTypedSelf : FnArg → Prop
  | mk {attrs : List Attribute} {byRef mutable : Option Span} {ident : Ident}
      {sub : Option (List Part)} {colon : Span} {t : Ty} (named : ident.text = "self") :
      IsTypedSelf (.typed attrs (.name byRef mutable ident sub) colon t)

/-- A trait object with these bounds, perhaps in parentheses. -/
def Ty.IsObject (bounds : List Bound) (t : Ty) : Prop :=
  ∃ word trailing, (Ty.traitObject word bounds trailing).Wraps t

/-- A type that states the bounds of a callback on the spot, and how the callback is passed. -/
inductive Ty.Asks (bounds : List Bound) : Ty → Passing → Prop
  | impl (word : Span) (trailing : Bool) : Asks bounds (.implTrait word bounds trailing) .direct
  | boxed {t object : Ty} (box : Ty.Applies "Box" object t) (h : object.IsObject bounds) :
      Asks bounds t .boxed
  | ref (amp : Span) (lifetime : Option Lifetime) {object : Ty} (h : object.IsObject bounds) :
      Asks bounds (.reference amp lifetime none object) .ref
  | refMut (amp : Span) (lifetime : Option Lifetime) (word : Span) {object : Ty}
      (h : object.IsObject bounds) :
      Asks bounds (.reference amp lifetime (some word) object) .refMut

/-- A generic parameter that is the type parameter of this name. -/
def GenericParam.IsTypeNamed (name : Ident) (p : GenericParam) : Prop :=
  ∃ q : TypeParam, p = .type q ∧ q.ident.text = name.text

/-- A condition on this name. -/
def WherePredicate.Bounds (name : Ident) (q : WherePredicate) : Prop :=
  ∃ binder bounded bounds trailing, q = .type binder bounded bounds trailing ∧ bounded.Names name

/-- The bounds that conditions state on a name. Every other condition leaves the name alone. -/
inductive BoundedBy (name : Ident) : List WherePredicate → List Bound → Prop
  | nil : BoundedBy name [] []
  | on {binder : Option Binder} {bounded : Ty} {bounds more : List Bound} {trailing : Bool}
      {rest : List WherePredicate} (names : bounded.Names name) (h : BoundedBy name rest more) :
      BoundedBy name (.type binder bounded bounds trailing :: rest) (bounds ++ more)
  | other {p : WherePredicate} {more : List Bound} {rest : List WherePredicate}
      (unmentioned : Part.mention p.parts name = false) (h : BoundedBy name rest more) :
      BoundedBy name (p :: rest) more

/-- **The ways to ask for a callback with these bounds**, in a function with these parameters in
front and this return type: how the callback is passed, and the type parameter that stands for it.
The bounds on a type parameter may stand where it is declared, or in any number of conditions; its
name occurs nowhere else. -/
inductive Spelled (bounds : List Bound) (leading : List FnArg) (output : Option Ty) :
    Signature → Passing → Option Ident → Prop
  | onTheSpot {s : Signature} {attrs : List Attribute} {pat : Pat} {colon : Span} {t written : Ty}
      {passing : Passing} (inputs : s.inputs = leading ++ [.typed attrs pat colon t])
      (returns : s.output = output) (wrapped : written.Wraps t)
      (asks : written.Asks bounds passing) : Spelled bounds leading output s passing none
  | parameter {s : Signature} {attrs : List Attribute} {pat : Pat} {colon : Span} {t : Ty}
      {name : Ident} {p : TypeParam} {before after : List GenericParam} {more : List Bound}
      (inputs : s.inputs = leading ++ [.typed attrs pat colon t]) (returns : s.output = output)
      (wrapped : (Ty.path (.mk none [.mk name .none])).Wraps t)
      (declared : s.generics.params = before ++ .type p :: after) (named : p.ident.text = name.text)
      (first : ∀ q ∈ before, ¬ q.IsTypeNamed name)
      (others : ∀ q ∈ s.generics.params, ¬ q.IsTypeNamed name → Part.mention q.parts name = false)
      (conditions : BoundedBy name s.generics.predicates more)
      (split : (p.bounds ++ more).Perm bounds)
      (notLeading : ∀ arg ∈ leading, Part.mention arg.parts name = false)
      (notOutput : ∀ r, output = some r → r.mentions name = false) :
      Spelled bounds leading output s .direct (some p.ident)

/-! ## 3. Type parameters -/

theorem GenericParam.isTypeNamed_iff {name : Ident} {p : GenericParam} :
    p.isTypeNamed name = true ↔ p.IsTypeNamed name := by
  unfold isTypeNamed IsTypeNamed
  cases p with
  | type q =>
    constructor
    · intro h
      exact ⟨q, rfl, beq_iff_eq.mp h⟩
    · rintro ⟨r, same, h⟩
      injection same with same
      subst same
      exact beq_iff_eq.mpr h
  | lifetime q =>
    constructor
    · exact fun h => nomatch h
    · rintro ⟨r, same, -⟩
      nomatch same
  | const q =>
    constructor
    · exact fun h => nomatch h
    · rintro ⟨r, same, -⟩
      nomatch same

theorem WherePredicate.boundsName_iff {name : Ident} {p : WherePredicate} :
    p.boundsName name = true ↔ p.Bounds name := by
  cases p with
  | lifetime l bounds trailing =>
    constructor
    · exact fun h => nomatch h
    · rintro ⟨_, _, _, _, same, -⟩
      nomatch same
  | type binder bounded bounds trailing =>
    constructor
    · intro h
      exact ⟨binder, bounded, bounds, trailing, rfl, Ty.isName_iff.mp h⟩
    · rintro ⟨_, _, _, _, same, names⟩
      injection same with _ same _ _
      subst same
      exact Ty.isName_iff.mpr names

/-- A condition on a name mentions it. -/
theorem WherePredicate.mention_of_boundsName {name : Ident} {p : WherePredicate}
    (h : p.boundsName name = true) : Part.mention p.parts name = true := by
  obtain ⟨binder, bounded, bounds, trailing, rfl, names⟩ := boundsName_iff.mp h
  simp only [parts, Part.mention_append, Part.mention_ty, names.mentions, Bool.or_true,
    Bool.true_or]

theorem WherePredicate.boundsOn_eq_nil {name : Ident} {p : WherePredicate}
    (h : p.boundsName name = false) : p.boundsOn name = [] := by
  cases p with
  | lifetime => rfl
  | type binder bounded bounds trailing => exact if_neg (Bool.eq_false_iff.mp h)

namespace BoundedBy

variable {name : Ident} {ps : List WherePredicate} {bounds : List Bound}

theorem boundsOn_eq (h : BoundedBy name ps bounds) :
    ps.flatMap (WherePredicate.boundsOn name) = bounds := by
  induction h with
  | nil => rfl
  | on names h ih =>
    rw [List.flatMap_cons, ih, WherePredicate.boundsOn, if_pos (Ty.isName_iff.mpr names)]
  | @other p more rest unmentioned h ih =>
    have other : p.boundsName name = false := by
      refine Bool.eq_false_iff.mpr fun found => ?_
      rw [WherePredicate.mention_of_boundsName found] at unmentioned
      nomatch unmentioned
    rw [List.flatMap_cons, ih, WherePredicate.boundsOn_eq_nil other, List.nil_append]

theorem unmentioned (h : BoundedBy name ps bounds) : ∀ p ∈ ps, p.boundsName name = false →
    Part.mention p.parts name = false := by
  induction h with
  | nil => exact fun p mem => nomatch mem
  | @on binder bounded bounds more trailing rest names h ih =>
    intro p mem other
    rcases List.mem_cons.mp mem with rfl | mem
    · rw [WherePredicate.boundsName_iff.mpr ⟨_, _, _, _, rfl, names⟩] at other
      nomatch other
    · exact ih p mem other
  | other unmentioned h ih =>
    intro p mem other
    rcases List.mem_cons.mp mem with rfl | mem
    · exact unmentioned
    · exact ih p mem other

end BoundedBy

theorem boundedBy_of_unmentioned {name : Ident} {ps : List WherePredicate}
    (h : ∀ p ∈ ps, p.boundsName name = false → Part.mention p.parts name = false) :
    BoundedBy name ps (ps.flatMap (WherePredicate.boundsOn name)) := by
  induction ps with
  | nil => exact .nil
  | cons p ps ih =>
    have rest := ih fun q mem => h q (List.mem_cons_of_mem _ mem)
    rw [List.flatMap_cons]
    cases found : p.boundsName name with
    | true =>
      obtain ⟨binder, bounded, bounds, trailing, rfl, names⟩ :=
        WherePredicate.boundsName_iff.mp found
      rw [WherePredicate.boundsOn, if_pos (Ty.isName_iff.mpr names)]
      exact .on names rest
    | false =>
      rw [WherePredicate.boundsOn_eq_nil found]
      exact .other (h p List.mem_cons_self found) rest

/-- The type parameter of a name is the first one that has it. -/
theorem Generics.find?_typeParams {g : Generics} {name : Ident} {p : TypeParam} :
    g.typeParams.find? (fun q => q.ident.same name) = some p ↔
      ∃ before after, g.params = before ++ .type p :: after ∧ p.ident.text = name.text ∧
        ∀ q ∈ before, ¬ q.IsTypeNamed name := by
  have test : ∀ q : GenericParam,
      (q.type?.any fun r => r.ident.same name) = q.isTypeNamed name := by
    intro q
    cases q <;> rfl
  simp only [typeParams, List.find?_filterMap, test, Option.bind_eq_some_iff,
    List.find?_eq_some_iff_append, Bool.not_eq_true', ← Bool.not_eq_true,
    GenericParam.isTypeNamed_iff]
  constructor
  · rintro ⟨q, ⟨⟨r, rfl, named⟩, before, after, declared, first⟩, found⟩
    injection found with found
    subst found
    exact ⟨before, after, declared, named, first⟩
  · rintro ⟨before, after, declared, named, first⟩
    exact ⟨.type p, ⟨⟨p, rfl, named⟩, before, after, declared, first⟩, rfl⟩

namespace Signature

variable {s : Signature} {name : Ident}

/-- **Where the name of a callback's type parameter must not occur.** -/
theorem mention_elsewhere : Part.mention (s.elsewhere name) name = false ↔
    (∀ arg ∈ s.inputs.dropLast, Part.mention arg.parts name = false) ∧
    (∀ r, s.output = some r → r.mentions name = false) ∧
    (∀ q ∈ s.generics.params, ¬ q.IsTypeNamed name → Part.mention q.parts name = false) ∧
    ∀ q ∈ s.generics.predicates, q.boundsName name = false →
      Part.mention q.parts name = false := by
  have returned : Part.mention s.outputParts name = false ↔
      ∀ r, s.output = some r → r.mentions name = false := by
    unfold outputParts
    cases s.output with
    | none => simp [Part.mention, Part.headsOf]
    | some r =>
      simp [Part.operator, Part.mention_append, Part.mention_ofTokens, Part.mention_ty]
  simp only [elsewhere, Part.mention_append, Part.mention_flatMap, Bool.or_eq_false_iff, returned,
    List.any_eq_false, Bool.not_eq_true, List.mem_filter, Bool.not_eq_true', and_imp, and_assoc,
    ← GenericParam.isTypeNamed_iff]

theorem isTypedSelf_iff {arg : FnArg} : isTypedSelf arg = true ↔ arg.IsTypedSelf := by
  constructor
  · intro h
    unfold isTypedSelf at h
    split at h
    · exact .mk (beq_iff_eq.mp h)
    · nomatch h
  · rintro ⟨named⟩
    exact beq_iff_eq.mpr named

end Signature

/-! ## 4. What is recognised -/

theorem Ty.isObject_iff {bounds : List Bound} {t : Ty} :
    t.IsObject bounds ↔ ∃ word trailing, t.peel = .traitObject word bounds trailing := by
  constructor
  · rintro ⟨word, trailing, wrapped⟩
    exact ⟨word, trailing, wrapped.peel_eq⟩
  · rintro ⟨word, trailing, found⟩
    refine ⟨word, trailing, ?_⟩
    rw [← found]
    exact t.wraps_peel

namespace Signature

variable {s : Signature} {bounds : List Bound} {passing : Passing} {c : Callback}

theorem callbackOfTy?_of_asks {t written : Ty} (wrapped : written.Wraps t)
    (asks : written.Asks bounds passing) :
    s.callbackOfTy? t = (Bound.callbackValue? bounds).map fun v => ⟨v, passing, none⟩ := by
  unfold callbackOfTy?
  rw [wrapped.peel_eq]
  cases asks with
  | impl word trailing => rfl
  | @boxed _ object box h =>
    obtain ⟨word, trailing, found⟩ := Ty.isObject_iff.mp h
    have inside := Ty.unwrap?_eq_some.mpr box
    cases box with
    | mk named only =>
      simp only [Ty.peel, inside, found]
  | ref amp lifetime h =>
    obtain ⟨word, trailing, found⟩ := Ty.isObject_iff.mp h
    simp only [Ty.peel, found]
    rfl
  | refMut amp lifetime word h =>
    obtain ⟨word, trailing, found⟩ := Ty.isObject_iff.mp h
    simp only [Ty.peel, found]
    rfl

theorem asks_of_callbackOfTy? {t : Ty} (h : s.callbackOfTy? t = some c) :
    (∃ bounds, ∃ written : Ty, written.Wraps t ∧ written.Asks bounds c.passing ∧
      c.generic = none ∧ Bound.callbackValue? bounds = some c.value) ∨
    ∃ p, (Ty.path p).Wraps t ∧ s.genericCallback? p = some c := by
  have wrapped := t.wraps_peel
  unfold callbackOfTy? at h
  split at h
  · rename_i word bounds trailing found
    obtain ⟨v, value, rfl⟩ := Option.map_eq_some_iff.mp h
    rw [found] at wrapped
    exact .inl ⟨bounds, _, wrapped, .impl word trailing, rfl, value⟩
  · rename_i amp lifetime mutable inner found
    split at h
    · rename_i word bounds trailing object
      obtain ⟨v, value, rfl⟩ := Option.map_eq_some_iff.mp h
      rw [found] at wrapped
      have isObject := Ty.isObject_iff.mpr ⟨word, trailing, object⟩
      cases mutable with
      | none => exact .inl ⟨bounds, _, wrapped, .ref amp lifetime isObject, rfl, value⟩
      | some m => exact .inl ⟨bounds, _, wrapped, .refMut amp lifetime m isObject, rfl, value⟩
    · nomatch h
  · rename_i p found
    rw [found] at wrapped
    split at h
    · rename_i inner box
      split at h
      · rename_i word bounds trailing object
        obtain ⟨v, value, rfl⟩ := Option.map_eq_some_iff.mp h
        have isObject := Ty.isObject_iff.mpr ⟨word, trailing, object⟩
        exact .inl ⟨bounds, _, wrapped, .boxed (Ty.unwrap?_eq_some.mp box) isObject, rfl, value⟩
      · nomatch h
    · exact .inr ⟨p, wrapped, h⟩
  · nomatch h

theorem genericCallback?_eq {name : Ident} {param : TypeParam}
    (found : s.generics.typeParams.find? (fun q => q.ident.same name) = some param)
    (unmentioned : Part.mention (s.elsewhere name) name = false) :
    s.genericCallback? (.mk none [.mk name .none]) =
      (Bound.callbackValue? (s.boundsOn param name)).map
        fun v => ⟨v, .direct, some param.ident⟩ := by
  simp only [genericCallback?, Path.single?, bind, Option.bind_some, found, unmentioned]
  cases Bound.callbackValue? (s.boundsOn param name) <;> rfl

theorem genericCallback?_eq_some {p : Path} (h : s.genericCallback? p = some c) :
    ∃ name param, p = .mk none [.mk name .none] ∧
      s.generics.typeParams.find? (fun q => q.ident.same name) = some param ∧
      Part.mention (s.elsewhere name) name = false ∧
      Bound.callbackValue? (s.boundsOn param name) = some c.value ∧
      c = ⟨c.value, .direct, some param.ident⟩ := by
  simp only [genericCallback?, bind, Option.bind_eq_some_iff, Path.single?_eq_some] at h
  obtain ⟨name, rfl, param, found, v, value, h⟩ := h
  split at h
  · nomatch h
  · rename_i unmentioned
    injection h with h
    subst h
    exact ⟨name, param, rfl, found, Bool.eq_false_iff.mpr unmentioned, value, rfl⟩

theorem callback?_eq {leading : List FnArg} {attrs : List Attribute} {pat : Pat} {colon : Span}
    {t : Ty} (inputs : s.inputs = leading ++ [.typed attrs pat colon t])
    (plain : ∀ arg ∈ leading, ¬ arg.IsTypedSelf) : s.callback? = s.callbackOfTy? t := by
  have none : leading.any isTypedSelf = false := by
    refine List.any_eq_false.mpr fun arg mem => ?_
    rw [isTypedSelf_iff]
    exact plain arg mem
  unfold callback?
  rw [inputs, List.getLast?_concat, List.dropLast_concat]
  dsimp only
  rw [none]
  rfl

theorem callback?_eq_some (h : s.callback? = some c) : ∃ leading attrs pat colon t,
    s.inputs = leading ++ [.typed attrs pat colon t] ∧ (∀ arg ∈ leading, ¬ arg.IsTypedSelf) ∧
      s.callbackOfTy? t = some c := by
  unfold callback? at h
  split at h
  · rename_i attrs pat colon t last
    obtain ⟨leading, inputs⟩ := List.getLast?_eq_some_iff.mp last
    rw [inputs, List.dropLast_concat] at h
    split at h
    · nomatch h
    · rename_i plain
      refine ⟨leading, attrs, pat, colon, t, inputs, fun arg mem typed => plain ?_, h⟩
      exact List.any_eq_true.mpr ⟨arg, mem, isTypedSelf_iff.mpr typed⟩
  · nomatch h

end Signature

/-- **A spelling is answered by its bounds**: the value is what they tell, and there is no callback
if they tell none. -/
theorem Spelled.callback?_eq {bounds : List Bound} {leading : List FnArg} {output : Option Ty}
    {s : Signature} {passing : Passing} {generic : Option Ident}
    (h : Spelled bounds leading output s passing generic)
    (plain : ∀ arg ∈ leading, ¬ arg.IsTypedSelf) :
    s.callback? = (Bound.callbackValue? bounds).map fun v => ⟨v, passing, generic⟩ := by
  cases h with
  | onTheSpot inputs returns wrapped asks =>
    rw [Signature.callback?_eq inputs plain, Signature.callbackOfTy?_of_asks wrapped asks]
  | @parameter attrs pat colon t name p before after more inputs returns wrapped declared named
      first others conditions split notLeading notOutput =>
    have found := Generics.find?_typeParams.mpr ⟨before, after, declared, named, first⟩
    have unmentioned : Part.mention (s.elsewhere name) name = false := by
      refine Signature.mention_elsewhere.mpr ⟨?_, ?_, others, conditions.unmentioned⟩
      · rw [inputs, List.dropLast_concat]
        exact notLeading
      · rw [returns]
        exact notOutput
    have spelled : s.callbackOfTy? t = s.genericCallback? (.mk none [.mk name .none]) := by
      unfold Signature.callbackOfTy?
      rw [wrapped.peel_eq]
      rfl
    rw [Signature.callback?_eq inputs plain, spelled,
      Signature.genericCallback?_eq found unmentioned, Signature.boundsOn,
      conditions.boundsOn_eq, Bound.callbackValue?_perm split]

/-- **Nothing else is recognised.** -/
theorem Signature.spelled_of_callback? {s : Signature} {c : Callback}
    (h : s.callback? = some c) : ∃ bounds leading, (∀ arg ∈ leading, ¬ arg.IsTypedSelf) ∧
      Spelled bounds leading s.output s c.passing c.generic ∧
      Bound.callbackValue? bounds = some c.value := by
  obtain ⟨leading, attrs, pat, colon, t, inputs, plain, found⟩ := callback?_eq_some h
  rcases asks_of_callbackOfTy? found with ⟨bounds, written, wrapped, asks, generic, value⟩ |
    ⟨p, wrapped, generic⟩
  · refine ⟨bounds, leading, plain, ?_, value⟩
    rw [generic]
    exact .onTheSpot inputs rfl wrapped asks
  · obtain ⟨name, p, rfl, found, unmentioned, value, made⟩ := genericCallback?_eq_some generic
    obtain ⟨before, after, declared, named, first⟩ := Generics.find?_typeParams.mp found
    obtain ⟨notLeading, notOutput, others, conditions⟩ := mention_elsewhere.mp unmentioned
    refine ⟨_, leading, plain, ?_, value⟩
    rw [made]
    rw [inputs, List.dropLast_concat] at notLeading
    exact .parameter inputs rfl wrapped declared named first others
      (boundedBy_of_unmentioned conditions) (.refl _) notLeading notOutput

/-! ## 5. All spellings alike -/

/-- **The spelling of a callback does not matter.** Of the functions that ask for a callback with
the same bounds, behind the same parameters and with the same return type, all have a callback or
none has. There is one exactly if one bound alone is a function trait, with one argument that is no
reference and without a result; its value is that argument, and how it is passed and which type
parameter stands for it is told by the spelling. -/
theorem callback_spelling_irrelevant (bounds : List Bound) (leading : List FnArg)
    (output : Option Ty) (plain : ∀ arg ∈ leading, ¬ arg.IsTypedSelf) :
    (∀ s passing generic, Spelled bounds leading output s passing generic → ∀ c : Callback,
      s.callback? = some c ↔
        c.passing = passing ∧ c.generic = generic ∧ CallbackValue bounds c.value) ∧
    ∀ s passing generic s' passing' generic', Spelled bounds leading output s passing generic →
      Spelled bounds leading output s' passing' generic' →
      s.callback?.map Callback.value = s'.callback?.map Callback.value := by
  constructor
  · intro s passing generic h c
    rw [h.callback?_eq plain, Option.map_eq_some_iff]
    constructor
    · rintro ⟨v, value, rfl⟩
      exact ⟨rfl, rfl, Bound.callbackValue?_eq_some.mp value⟩
    · rintro ⟨rfl, rfl, value⟩
      exact ⟨c.value, Bound.callbackValue?_eq_some.mpr value, rfl⟩
  · intro s passing generic s' passing' generic' h h'
    rw [h.callback?_eq plain, h'.callback?_eq plain, Option.map_map, Option.map_map]
    rfl

/-- The type that is just this name. -/
def nameTy (text : String) : Ty := .path (.mk none [.mk (.new text) .none])

/-- The bound `FnOnce(value)`. -/
def takesOnce (value : Ty) : Bound :=
  .trait none none none (.mk none [.mk (.new "FnOnce") (.paren .callSite [value] false none)])

/-- The bound `Send`. -/
def sendable : Bound := .trait none none none (.mk none [.mk (.new "Send") .none])

/-- The parameter `id: u32`. -/
def numberArg : FnArg := .typed [] (.name none none (.new "id") none) .callSite (nameTy "u32")

/-- A function that takes a number and a callback of this type. -/
def fetchWith (generics : Generics) (t : Ty) : Signature :=
  { (default : Signature) with
    ident := .new "fetch"
    generics := generics
    inputs := [numberArg, .typed [] (.name none none (.new "done") none) .callSite t] }

/-- `fn fetch(id: u32, done: Box<dyn FnOnce(String) + Send>)`. -/
def boxedFetch : Signature :=
  fetchWith .empty (.path (.mk none [.mk (.new "Box") (.angle false .callSite .callSite
    [.ty (.traitObject (some .callSite) [takesOnce (nameTy "String"), sendable] false)] false)]))

/-- The type parameter `F: Send`. -/
def sendableParam : TypeParam := ⟨[], .new "F", [sendable], false, none⟩

/-- `fn fetch<F: Send>(id: u32, done: F) where F: FnOnce(String)`. -/
def genericFetch : Signature :=
  fetchWith ⟨[.type sendableParam], false,
    some ⟨.callSite, [.type none (nameTy "F") [takesOnce (nameTy "String")] false], false⟩⟩
    (nameTy "F")

theorem takesOnce_takes {value : Ty} (owned : ¬ value.IsReference) :
    (takesOnce value).Takes value :=
  @Bound.Takes.mk value none none none none [] _ _ _ _ (.inr (.inr rfl)) (.inl rfl) owned

theorem not_isReference_nameTy (text : String) : ¬ (nameTy text).IsReference := by
  rw [← Ty.isReference_peel]
  exact fun h => nomatch h

theorem not_namesFn_sendable : ¬ sendable.NamesFn := Bound.fnTrait?_eq_none.mp (by decide)

theorem boxedFetch_spelled : Spelled [takesOnce (nameTy "String"), sendable] [numberArg] none
    boxedFetch .boxed none := by
  have box := @Ty.Applies.mk "Box"
    (.traitObject (some .callSite) [takesOnce (nameTy "String"), sendable] false) none []
    (.new "Box") false false .callSite .callSite _ rfl ⟨[], [], rfl, fun _ mem => nomatch mem⟩
  exact .onTheSpot rfl rfl .bare (.boxed box ⟨_, _, .bare⟩)

theorem genericFetch_spelled : Spelled [takesOnce (nameTy "String"), sendable] [numberArg] none
    genericFetch .direct (some (.new "F")) := by
  have declared : genericFetch.generics.params = [] ++ .type sendableParam :: [] := rfl
  have conditions : BoundedBy (.new "F") genericFetch.generics.predicates
      [takesOnce (nameTy "String")] := .on ⟨_, rfl, .bare⟩ .nil
  refine .parameter rfl rfl .bare declared rfl ?_ ?_ conditions (.swap _ _ _) ?_ ?_
  · exact fun _ mem => nomatch mem
  · intro q mem other
    obtain rfl := List.mem_singleton.mp mem
    exact absurd ⟨_, rfl, rfl⟩ other
  · intro arg mem
    obtain rfl := List.mem_singleton.mp mem
    decide
  · exact fun r h => nomatch h

/-- A boxed callback and a generic one with the same bounds have the same value. -/
theorem fetch_spellings_alike :
    (∀ arg ∈ [numberArg], ¬ arg.IsTypedSelf) ∧
    Spelled [takesOnce (nameTy "String"), sendable] [numberArg] none boxedFetch .boxed none ∧
    Spelled [takesOnce (nameTy "String"), sendable] [numberArg] none genericFetch .direct
      (some (.new "F")) ∧
    boxedFetch.callback? = some ⟨nameTy "String", .boxed, none⟩ ∧
    genericFetch.callback?.map Callback.value = some (nameTy "String") := by
  have plain : ∀ arg ∈ [numberArg], ¬ arg.IsTypedSelf := by
    intro arg mem
    obtain rfl := List.mem_singleton.mp mem
    rw [← Signature.isTypedSelf_iff]
    decide
  have value : CallbackValue [takesOnce (nameTy "String"), sendable] (nameTy "String") := by
    refine ⟨[], _, [sendable], rfl, takesOnce_takes (not_isReference_nameTy _), ?_⟩
    intro other mem
    obtain rfl := List.mem_singleton.mp mem
    exact not_namesFn_sendable
  obtain ⟨each, alike⟩ := callback_spelling_irrelevant
    [takesOnce (nameTy "String"), sendable] [numberArg] none plain
  have boxed : boxedFetch.callback? = some ⟨nameTy "String", .boxed, none⟩ :=
    (each _ _ _ boxedFetch_spelled _).mpr ⟨rfl, rfl, value⟩
  refine ⟨plain, boxedFetch_spelled, genericFetch_spelled, boxed, ?_⟩
  rw [alike _ _ _ _ _ _ genericFetch_spelled boxedFetch_spelled, boxed]
  rfl

end Graft
