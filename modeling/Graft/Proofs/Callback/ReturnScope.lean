import Graft.Proofs.Callback.Spellings
import Graft.Transform.Catalog
import Graft.Grammar.Entry
import Mathlib

/-!
# Names in the return type of a sibling

A sibling returns what the callback takes. That type is written inside a bound on the callback,
where more names are in scope than in the sibling: the type parameter that stands for the callback,
and the lifetimes that a `for<..>` in front of the bound or of its condition introduces.

* `Signature.BoundsCallback`: the bounds on a callback, with the lifetimes of their conditions.
* `Ty.FreeOf`: a type that uses none of the names that are lost; `Sibling.Closed`: a sibling that
  returns one.
* `Spelled.boundsCallback_iff`: a spelling of a callback with some bounds states just these.
* **`sibling_return_type`**: which functions have a sibling, and what it returns. Nothing is asked
  about the names in that type, so a sibling may return a type with names that it does not declare;
  `selfTaking_not_closed` and `borrowing_not_closed` are two that do.
-/

namespace Graft

/-! ## 1. Scope -/

/-- The lifetimes that a `for<..>` introduces, if there is one. -/
def binderLifetimes : Option Binder → List Lifetime
  | some b => b.params.map LifetimeParam.lifetime
  | none => []

/-- The `for<..>` in front of a bound. -/
def Bound.binder? : Bound → Option Binder
  | .trait _ _ binder _ => binder
  | .lifetime _ => none

/-- A lifetime that is named somewhere among tokens. -/
def Lifetime.OccursIn (l : Lifetime) (ts : List Token) : Prop :=
  Token.atomsOf l.tokens <:+: Token.atomsOf ts

/-- **The bounds on a callback**, each with the lifetimes of the condition that it stands in. They
are stated by the type of the last parameter, or, if a type parameter stands for the callback, where
that is declared and in the conditions on it. -/
inductive Signature.BoundsCallback (s : Signature) : Option Ident → List Lifetime → Bound → Prop
  | onTheSpot {leading : List FnArg} {attrs : List Attribute} {pat : Pat} {colon : Span}
      {t written : Ty} {bounds : List Bound} {passing : Passing} {b : Bound}
      (inputs : s.inputs = leading ++ [.typed attrs pat colon t]) (wrapped : written.Wraps t)
      (asks : written.Asks bounds passing) (mem : b ∈ bounds) : BoundsCallback s none [] b
  | declared {name : Ident} {p : TypeParam} {before after : List GenericParam} {b : Bound}
      (params : s.generics.params = before ++ .type p :: after) (named : p.ident.text = name.text)
      (first : ∀ q ∈ before, ¬ q.IsTypeNamed name) (mem : b ∈ p.bounds) :
      BoundsCallback s (some name) [] b
  | condition {name : Ident} {binder : Option Binder} {bounded : Ty} {bounds : List Bound}
      {trailing : Bool} {b : Bound}
      (stated : .type binder bounded bounds trailing ∈ s.generics.predicates)
      (names : bounded.Names name) (mem : b ∈ bounds) :
      BoundsCallback s (some name) (binderLifetimes binder) b

/-- A type that uses neither the type parameter of a callback nor one of these lifetimes. -/
def Ty.FreeOf (generic : Option Ident) (lifetimes : List Lifetime) (t : Ty) : Prop :=
  (∀ name, generic = some name → t.mentions name = false) ∧
  ∀ l ∈ lifetimes, ¬ l.OccursIn t.tokens

/-- **A sibling that returns a closed type**: one that uses no name which was in scope only for the
callback. -/
def Sibling.Closed (b : Sibling) : Prop :=
  ∀ outer bound, b.source.sig.BoundsCallback b.callback.generic outer bound → bound.NamesFn →
    b.callback.value.FreeOf b.callback.generic (outer ++ binderLifetimes bound.binder?)

/-! ## 2. Bounds of a spelling -/

theorem Ty.Asks.peel_eq {bounds : List Bound} {t : Ty} {passing : Passing}
    (h : t.Asks bounds passing) : t.peel = t := by
  cases h with
  | impl word trailing => rfl
  | boxed box h =>
    cases box with
    | mk named only => rfl
  | ref amp lifetime h => rfl
  | refMut amp lifetime word h => rfl

theorem Ty.IsObject.bounds_eq {bounds bounds' : List Bound} {t : Ty} (h : t.IsObject bounds)
    (h' : t.IsObject bounds') : bounds = bounds' := by
  obtain ⟨word, trailing, found⟩ := Ty.isObject_iff.mp h
  obtain ⟨word', trailing', found'⟩ := Ty.isObject_iff.mp h'
  rw [found] at found'
  injection found'

/-- A type asks for a callback with one list of bounds only. -/
theorem Ty.Asks.bounds_eq {bounds bounds' : List Bound} {t : Ty} {passing passing' : Passing}
    (h : t.Asks bounds passing) (h' : t.Asks bounds' passing') : bounds = bounds' := by
  cases h with
  | impl word trailing =>
    cases h' with
    | impl word trailing => rfl
    | boxed box h => nomatch box
  | boxed box h =>
    cases h' with
    | impl word trailing => nomatch box
    | boxed box' h' =>
      have same : some _ = some _ :=
        (Ty.unwrap?_eq_some.mpr box).symm.trans (Ty.unwrap?_eq_some.mpr box')
      injection same with same
      subst same
      exact h.bounds_eq h'
    | ref amp lifetime h' => nomatch box
    | refMut amp lifetime word h' => nomatch box
  | ref amp lifetime h =>
    cases h' with
    | boxed box h' => nomatch box
    | ref amp lifetime h' => exact h.bounds_eq h'
  | refMut amp lifetime word h =>
    cases h' with
    | boxed box h' => nomatch box
    | refMut amp lifetime word h' => exact h.bounds_eq h'

theorem WherePredicate.mem_boundsOn {name : Ident} {q : WherePredicate} {b : Bound} :
    b ∈ q.boundsOn name ↔ ∃ binder bounded bounds trailing,
      q = .type binder bounded bounds trailing ∧ bounded.Names name ∧ b ∈ bounds := by
  cases q with
  | lifetime l bounds trailing => simp [boundsOn]
  | type binder bounded bounds trailing =>
    rw [boundsOn]
    split
    · rename_i named
      constructor
      · exact fun mem => ⟨_, _, _, _, rfl, Ty.isName_iff.mp named, mem⟩
      · rintro ⟨_, _, _, _, same, -, mem⟩
        injection same with _ _ same _
        rwa [same]
    · rename_i other
      constructor
      · exact fun mem => absurd mem List.not_mem_nil
      · rintro ⟨_, _, _, _, same, names, -⟩
        injection same with _ same _ _
        subst same
        exact absurd (Ty.isName_iff.mpr names) other

/-- **A spelling states its bounds and no others.** -/
theorem Spelled.boundsCallback_iff {bounds : List Bound} {leading : List FnArg}
    {output : Option Ty} {s : Signature} {passing : Passing} {generic : Option Ident}
    (h : Spelled bounds leading output s passing generic) {b : Bound} :
    (∃ outer, s.BoundsCallback generic outer b) ↔ b ∈ bounds := by
  cases h with
  | onTheSpot inputs returns wrapped asks =>
    constructor
    · rintro ⟨_, stated⟩
      cases stated with
      | onTheSpot inputs' wrapped' asks' mem =>
        obtain ⟨-, last⟩ := List.append_inj' (inputs.symm.trans inputs') rfl
        injection last with last _
        injection last with _ _ _ last
        subst last
        have same := wrapped.peel_eq.symm.trans wrapped'.peel_eq
        rw [asks.peel_eq, asks'.peel_eq] at same
        subst same
        rwa [asks.bounds_eq asks']
    · exact fun mem => ⟨_, .onTheSpot inputs wrapped asks mem⟩
  | @parameter attrs pat colon t name p before after more inputs returns wrapped declared named
      first others conditions split notLeading notOutput =>
    have found := Generics.find?_typeParams.mpr ⟨before, after, declared, named, first⟩
    rw [← split.mem_iff, List.mem_append, ← conditions.boundsOn_eq, List.mem_flatMap]
    -- The parameter is declared by the name that the conditions on it use, up to positions.
    have sameName : ∀ bounded : Ty, bounded.Names p.ident ↔ bounded.Names name := by
      intro bounded
      simp only [Ty.Names, named]
    constructor
    · rintro ⟨_, stated⟩
      cases stated with
      | @declared _ p' before' after' _ params named' first' mem =>
        have found' := Generics.find?_typeParams.mpr
          ⟨before', after', params, named'.trans named, fun q mem typeNamed => ?_⟩
        · rw [found] at found'
          injection found' with same
          subst same
          exact .inl mem
        · refine first' q mem ?_
          rwa [GenericParam.IsTypeNamed, named]
      | @condition _ binder bounded bounds trailing _ stated names mem =>
        refine .inr ⟨_, stated, WherePredicate.mem_boundsOn.mpr ?_⟩
        exact ⟨_, _, _, _, rfl, (sameName _).mp names, mem⟩
    · rintro (mem | ⟨q, stated, mem⟩)
      · refine ⟨_, .declared declared rfl (fun q mem typeNamed => first q mem ?_) mem⟩
        rwa [GenericParam.IsTypeNamed, ← named]
      · obtain ⟨binder, bounded, bounds, trailing, rfl, names, mem⟩ :=
          WherePredicate.mem_boundsOn.mp mem
        exact ⟨_, .condition stated ((sameName _).mpr names) mem⟩

/-! ## 3. What a sibling returns -/

theorem Bound.Takes.namesFn {b : Bound} {value : Ty} (h : b.Takes value) : b.NamesFn := by
  obtain ⟨named, unit, owned⟩ := h
  exact ⟨named⟩

theorem Bound.Takes.owned {b : Bound} {value : Ty} (h : b.Takes value) : ¬ value.IsReference := by
  obtain ⟨named, unit, owned⟩ := h
  exact owned

/-- Among the bounds on a callback, a function trait takes the callback's value. -/
theorem CallbackValue.takes {bounds : List Bound} {value : Ty} (h : CallbackValue bounds value)
    {b : Bound} (mem : b ∈ bounds) (names : b.NamesFn) : b.Takes value := by
  obtain ⟨before, only, after, rfl, takes, others⟩ := h
  rcases List.mem_append.mp mem with mem | mem
  · exact absurd names (others b (List.mem_append_left _ mem))
  · rcases List.mem_cons.mp mem with rfl | mem
    · exact takes
    · exact absurd names (others b (List.mem_append_right _ mem))

theorem Bound.Takes.value_eq {b : Bound} {value value' : Ty} (h : b.Takes value)
    (h' : b.Takes value') : value = value' := by
  obtain ⟨p, trait, taken⟩ := Bound.takes_iff.mp h
  obtain ⟨p', trait', taken'⟩ := Bound.takes_iff.mp h'
  rw [trait] at trait'
  injection trait' with same
  subst same
  rw [taken] at taken'
  injection taken'

namespace Sibling

variable {f : FnItem} {b : Sibling}

theorem of?_eq_some :
    of? f = some b ↔ f.sig.unsafety = none ∧ b.source = f ∧ f.sig.callback? = some b.callback := by
  unfold of?
  cases f.sig.unsafety with
  | some word => simp
  | none =>
    simp only [Option.isSome_none, Bool.false_eq_true, if_false, Option.map_eq_some_iff, true_and]
    constructor
    · rintro ⟨c, found, rfl⟩
      exact ⟨rfl, found⟩
    · rintro ⟨rfl, found⟩
      exact ⟨_, found, rfl⟩

/-- A sibling answers one spelling of a callback. -/
theorem spelled (h : of? f = some b) : ∃ bounds leading, (∀ arg ∈ leading, ¬ arg.IsTypedSelf) ∧
    Spelled bounds leading f.sig.output f.sig b.callback.passing b.callback.generic ∧
    CallbackValue bounds b.callback.value := by
  obtain ⟨-, -, found⟩ := of?_eq_some.mp h
  obtain ⟨bounds, leading, plain, spelled, value⟩ := Signature.spelled_of_callback? found
  exact ⟨bounds, leading, plain, spelled, Bound.callbackValue?_eq_some.mp value⟩

/-- The function trait among the bounds on the callback takes what the sibling returns. -/
theorem takes (h : of? f = some b) :
    (∃ outer bound, f.sig.BoundsCallback b.callback.generic outer bound ∧
      bound.Takes b.callback.value) ∧
    ∀ outer bound, f.sig.BoundsCallback b.callback.generic outer bound → bound.NamesFn →
      bound.Takes b.callback.value := by
  obtain ⟨bounds, leading, -, spelled, value⟩ := spelled h
  constructor
  · obtain ⟨before, bound, after, split, takes, -⟩ := value
    have mem : bound ∈ bounds := by
      rw [split]
      exact List.mem_append_right _ List.mem_cons_self
    obtain ⟨outer, stated⟩ := spelled.boundsCallback_iff.mpr mem
    exact ⟨outer, bound, stated, takes⟩
  · intro outer bound stated names
    exact value.takes (spelled.boundsCallback_iff.mp ⟨outer, stated⟩) names

/-- The return type of a sibling is closed iff the argument of the callback's function trait is. -/
theorem closed_iff (h : of? f = some b) : b.Closed ↔
    ∀ outer bound value, f.sig.BoundsCallback b.callback.generic outer bound → bound.Takes value →
      value.FreeOf b.callback.generic (outer ++ binderLifetimes bound.binder?) := by
  obtain ⟨-, source, -⟩ := of?_eq_some.mp h
  unfold Closed
  rw [source]
  constructor
  · intro closed outer bound value stated takes
    rw [takes.value_eq ((Sibling.takes h).2 outer bound stated takes.namesFn)]
    exact closed outer bound stated takes.namesFn
  · intro free outer bound stated names
    exact free outer bound _ stated ((Sibling.takes h).2 outer bound stated names)

end Sibling

/-- A function gains its sibling and nothing else. -/
theorem Transform.asyncBridge_function (f : FnItem) (args : Arguments) :
    Transform.asyncBridge.run ⟨.item (.function f), args, true⟩ =
      .ok (.just ((Sibling.of? f).elim .nothing fun b => .declarations [b.method.tokens])) := by
  simp only [Transform.run, Transform.addSibling, Request.needStd, if_true]
  cases Sibling.of? f <;> rfl

/-- **What the sibling of a function returns.** A function that is not unsafe has a sibling exactly
if it asks for a callback whose bounds hold one function trait, with one argument that is no
reference and without a result. The sibling returns that argument, token for token. So the return
type is closed exactly if the argument uses neither the type parameter that stands for the callback
nor a lifetime of a `for<..>` around it; whether it does is not looked at. -/
theorem sibling_return_type (f : FnItem) :
    (∀ args, Transform.asyncBridge.run ⟨.item (.function f), args, true⟩ =
      .ok (.just ((Sibling.of? f).elim .nothing fun b => .declarations [b.method.tokens]))) ∧
    ((∃ b, Sibling.of? f = some b) ↔ f.sig.unsafety = none ∧
      ∃ bounds leading passing generic value, (∀ arg ∈ leading, ¬ arg.IsTypedSelf) ∧
        Spelled bounds leading f.sig.output f.sig passing generic ∧ CallbackValue bounds value) ∧
    ∀ b, Sibling.of? f = some b →
      b.method.output = some b.callback.value.tokens ∧ ¬ b.callback.value.IsReference ∧
      (∃ outer bound, f.sig.BoundsCallback b.callback.generic outer bound ∧
        bound.Takes b.callback.value) ∧
      (b.Closed ↔ ∀ outer bound value,
        f.sig.BoundsCallback b.callback.generic outer bound → bound.Takes value →
        value.FreeOf b.callback.generic (outer ++ binderLifetimes bound.binder?)) := by
  refine ⟨Transform.asyncBridge_function f, ?_, fun b h => ?_⟩
  · constructor
    · rintro ⟨b, h⟩
      obtain ⟨bounds, leading, plain, spelled, value⟩ := Sibling.spelled h
      exact ⟨(Sibling.of?_eq_some.mp h).1, bounds, leading, _, _, _, plain, spelled, value⟩
    · rintro ⟨safe, bounds, leading, passing, generic, value, plain, spelled, taken⟩
      refine ⟨⟨f, ⟨value, passing, generic⟩⟩, Sibling.of?_eq_some.mpr ⟨safe, rfl, ?_⟩⟩
      rw [spelled.callback?_eq plain, Bound.callbackValue?_eq_some.mpr taken]
      rfl
  · obtain ⟨outer, bound, stated, takes⟩ := (Sibling.takes h).1
    exact ⟨rfl, takes.owned, ⟨outer, bound, stated, takes⟩, Sibling.closed_iff h⟩

/-- A function with this signature and an empty body. -/
def FnItem.declared (sig : Signature) : FnItem := ⟨[], .inherited, sig, ⟨.callSite, []⟩⟩

/-- `fn fetch<F: Send>(id: u32, done: F) where F: FnOnce(String)` has a sibling that returns a
`String`, which is closed. -/
theorem genericFetch_returns_closed :
    ∃ b, Sibling.of? (.declared genericFetch) = some b ∧
      b.method.output = some (code "String") ∧ b.Closed := by
  let b : Sibling := ⟨.declared genericFetch, ⟨nameTy "String", .direct, some (.new "F")⟩⟩
  have found : Sibling.of? (.declared genericFetch) = some b := rfl
  obtain ⟨output, -, -, closed⟩ := (sibling_return_type (.declared genericFetch)).2.2 b found
  refine ⟨b, found, output, closed.mpr fun outer bound value stated takes => ?_⟩
  obtain rfl := ((Sibling.takes found).2 outer bound stated takes.namesFn).value_eq takes
  constructor
  · rintro name ⟨⟩
    decide
  · intro l _ occurs
    -- A lifetime is two tokens, the return type is one.
    have short := occurs.length_le
    simp [b, nameTy, Ty.tokens, Path.tokens, Segment.each, Segment.tokens, PathArgs.tokens,
      leadingColons, joinTokens, Token.atomsOf, Token.atoms, Lifetime.tokens] at short

/-! ## 4. Return types that are not closed -/

/-- The type `wrapper<args>`. -/
def appliedTy (wrapper : String) (args : List GenericArg) : Ty :=
  .path (.mk none [.mk (.new wrapper) (.angle false .callSite .callSite args false)])

/-- The bound `Fn(value)` behind a `for<..>`. -/
def takesMany (binder : Option Binder) (value : Ty) : Bound :=
  .trait none none binder (.mk none [.mk (.new "Fn") (.paren .callSite [value] false none)])

/-- A function whose only parameter is a callback of this type. -/
def eachWith (generics : Generics) (t : Ty) : FnItem :=
  .declared { (default : Signature) with
    ident := .new "each"
    generics := generics
    inputs := [.typed [] (.name none none (.new "done") none) .callSite t] }

/-- The type `Vec<F>`. -/
def manyCallbacks : Ty := appliedTy "Vec" [.ty (nameTy "F")]

/-- The type parameter `F: Fn(Vec<F>)`. -/
def selfTakingParam : TypeParam := ⟨[], .new "F", [takesMany none manyCallbacks], false, none⟩

/-- `fn each<F: Fn(Vec<F>)>(done: F) {}`. -/
def selfTaking : FnItem := eachWith ⟨[.type selfTakingParam], false, none⟩ (nameTy "F")

/-- The lifetime `'a`. -/
def lifetimeA : Lifetime := ⟨.callSite, .new "a"⟩

/-- The type `Cow<'a, str>`. -/
def borrowedText : Ty := appliedTy "Cow" [.lifetime lifetimeA, .ty (nameTy "str")]

/-- The bound `for<'a> Fn(Cow<'a, str>)`. -/
def takesBorrowed : Bound :=
  takesMany (some ⟨.callSite, [⟨[], lifetimeA, [], false⟩], false⟩) borrowedText

/-- `fn each(done: impl for<'a> Fn(Cow<'a, str>)) {}`. -/
def borrowing : FnItem := eachWith .empty (.implTrait .callSite [takesBorrowed] false)

set_option maxRecDepth 4000 in
theorem selfTaking_parse :
    Item.parse (code "fn each < F : Fn" ++ [parens (code "Vec < F >")] ++ operator ">" ++
      [parens (code "done : F"), braces []]) = .ok (.function selfTaking) := by
  cbv

set_option maxRecDepth 4000 in
theorem borrowing_parse :
    Item.parse (code "fn each" ++ [parens (code "done : impl for <" ++ lifetimeA.tokens ++
      code "> Fn" ++ [parens (code "Cow <" ++ lifetimeA.tokens ++ code ", str >")]), braces []]) =
      .ok (.function borrowing) := by
  cbv

/-- A sibling that returns `Vec<F>` though it does not declare `F`. -/
theorem selfTaking_not_closed : ∃ b, Sibling.of? selfTaking = some b ∧
    b.method.output = some (code "Vec < F >") ∧ b.method.generics.params = [] ∧ ¬ b.Closed := by
  refine ⟨⟨selfTaking, ⟨manyCallbacks, .direct, some (.new "F")⟩⟩, rfl, rfl, rfl, ?_⟩
  intro closed
  have stated : selfTaking.sig.BoundsCallback (some (.new "F")) [] (takesMany none manyCallbacks) :=
    @Signature.BoundsCallback.declared _ _ selfTakingParam [] [] _ rfl rfl
      (fun _ mem => nomatch mem) List.mem_cons_self
  have free := closed _ _ stated (@Bound.NamesFn.mk none none none none [] _ _ (.inl rfl))
  exact absurd (free.1 _ rfl) (by decide)

/-- A sibling that returns `Cow<'a, str>` though it does not declare `'a`. -/
theorem borrowing_not_closed : ∃ b, Sibling.of? borrowing = some b ∧
    b.method.output = some borrowedText.tokens ∧ b.method.generics.params = [] ∧ ¬ b.Closed := by
  refine ⟨⟨borrowing, ⟨borrowedText, .direct, none⟩⟩, rfl, rfl, rfl, ?_⟩
  intro closed
  have stated : borrowing.sig.BoundsCallback none [] takesBorrowed :=
    @Signature.BoundsCallback.onTheSpot _ [] _ _ _ _ _ _ _ _ rfl .bare (.impl _ _)
      List.mem_cons_self
  have free := closed _ _ stated (@Bound.NamesFn.mk none none none _ [] _ _ (.inl rfl))
  refine free.2 lifetimeA List.mem_cons_self ?_
  exact ⟨Token.atomsOf (code "Cow <"), Token.atomsOf (code ", str >"), by cbv⟩

/-- **Return types are not always closed**: both functions are read, and answered with a sibling
whose return type uses a name that only the callback had in scope. -/
theorem return_types_not_closed :
    (∃ ts b, Item.parse ts = .ok (.function selfTaking) ∧ Sibling.of? selfTaking = some b ∧
      ¬ b.Closed) ∧
    ∃ ts b, Item.parse ts = .ok (.function borrowing) ∧ Sibling.of? borrowing = some b ∧
      ¬ b.Closed := by
  obtain ⟨b, found, -, -, notClosed⟩ := selfTaking_not_closed
  obtain ⟨b', found', -, -, notClosed'⟩ := borrowing_not_closed
  exact ⟨⟨_, b, selfTaking_parse, found, notClosed⟩, ⟨_, b', borrowing_parse, found', notClosed'⟩⟩

end Graft
