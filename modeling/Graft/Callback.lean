import Graft.Outline

/-!
# Completion callbacks

A function may report its result through a callback that is its last parameter. The callback may be
spelled `impl Fn(T)`, `Box<dyn Fn(T)>`, `&dyn Fn(T)`, `&mut dyn FnMut(T)`, or as a type parameter
that is bounded so and used nowhere else.

* `Signature.callback?`: the callback of a function.
* `Signature.forwarded`: the parameters in front of it.
* `Generics.without`: the generics without the callback's own type parameter.
-/

namespace Graft

/-! ## 1. Bounds -/

/-- A type without the parentheses and invisible groups around it. -/
def Ty.peel : Ty → Ty
  | .paren _ t => t.peel
  | .group _ t => t.peel
  | t => t

/-- Whether a type is just this name. -/
def Ty.isName (t : Ty) (name : Ident) : Bool :=
  match t.peel with
  | .path p =>
    match p.single? with
    | some i => i.same name
    | none => false
  | _ => false

/-- The path of a bound that is a function trait. -/
def Bound.fnTrait? : Bound → Option Path
  | .trait _ _ _ p =>
    match p.last? with
    | some (.mk i _) => if ["Fn", "FnMut", "FnOnce"].contains i.text then some p else none
    | none => none
  | .lifetime _ => none

/-- Whether a type is a reference. -/
def Ty.isReference : Ty → Bool
  | .reference _ _ _ _ => true
  | _ => false

/-- Whether a return type is missing or `()`. -/
def returnsUnit : Option Ty → Bool
  | none => true
  | some (.tuple _ [] _) => true
  | _ => false

/-- The only argument of a function trait that returns nothing; a reference does not count. -/
def Path.callbackValue? (p : Path) : Option Ty :=
  match p.last? with
  | some (.mk _ (.paren _ [value] _ output)) =>
    if returnsUnit output && !value.peel.isReference then some value else none
  | _ => none

/-- The argument of the only function trait among bounds. -/
def Bound.callbackValue? (bounds : List Bound) : Option Ty :=
  match bounds.filterMap Bound.fnTrait? with
  | [p] => p.callbackValue?
  | _ => none

/-! ## 2. Callbacks -/

/-- How a callback has to be passed. -/
inductive Passing where
  | direct
  | boxed
  | ref
  | refMut
deriving DecidableEq, Repr, Inhabited

/-- The name of a way of passing. -/
def Passing.text : Passing → String
  | .direct => "Direct"
  | .boxed => "Boxed"
  | .ref => "Ref"
  | .refMut => "RefMut"

/-- A closure wrapped so that it can be passed. -/
def Passing.pass (closure : List Token) : Passing → List Token
  | .direct => closure
  | .boxed => code ":: std :: boxed :: Box :: new" ++ [parens closure]
  | .ref => operator "&" ++ closure
  | .refMut => code "& mut" ++ closure

/-- The callback that a function ends with. -/
structure Callback where
  /-- The type of the value that the callback is called with. -/
  value : Ty
  passing : Passing
  /-- The type parameter that stands for the callback, if there is one. -/
  generic : Option Ident

/-- Whether a condition bounds this type parameter. -/
def WherePredicate.boundsName (name : Ident) : WherePredicate → Bool
  | .type _ bounded _ _ => bounded.isName name
  | .lifetime _ _ _ => false

/-- The bounds that a condition states on this type parameter. -/
def WherePredicate.boundsOn (name : Ident) : WherePredicate → List Bound
  | .type _ bounded bounds _ => if bounded.isName name then bounds else []
  | .lifetime _ _ _ => []

/-- Whether a generic parameter is the type parameter of this name. -/
def GenericParam.isTypeNamed (name : Ident) : GenericParam → Bool
  | .type p => p.ident.same name
  | _ => false

namespace Signature

/-- All bounds on a type parameter, inline and in the `where` clause. -/
def boundsOn (s : Signature) (p : TypeParam) (name : Ident) : List Bound :=
  p.bounds ++ s.generics.predicates.flatMap (WherePredicate.boundsOn name)

/-- The pieces of a signature in which the callback's type parameter must not occur: everything
but the callback itself, the parameter and the conditions on it. -/
def elsewhere (s : Signature) (name : Ident) : List Part :=
  s.inputs.dropLast.flatMap FnArg.parts ++ s.outputParts ++
    (s.generics.params.filter (!·.isTypeNamed name)).flatMap GenericParam.parts ++
    (s.generics.predicates.filter (!·.boundsName name)).flatMap WherePredicate.parts

/-- The callback whose type is a type parameter that is used nowhere else. -/
def genericCallback? (s : Signature) (p : Path) : Option Callback := do
  let name ← p.single?
  let param ← s.generics.typeParams.find? fun q => q.ident.same name
  let value ← Bound.callbackValue? (s.boundsOn param name)
  if Part.mention (s.elsewhere name) name then none
  else some ⟨value, .direct, some param.ident⟩

/-- The callback that a type spells. -/
def callbackOfTy? (s : Signature) (t : Ty) : Option Callback :=
  match t.peel with
  | .implTrait _ bounds _ => (Bound.callbackValue? bounds).map fun v => ⟨v, .direct, none⟩
  | .reference _ _ mutable inner =>
    match inner.peel with
    | .traitObject _ bounds _ =>
      (Bound.callbackValue? bounds).map fun v =>
        ⟨v, if mutable.isSome then .refMut else .ref, none⟩
    | _ => none
  | .path p =>
    match Ty.unwrap? "Box" (.path p) with
    | some inner =>
      match inner.peel with
      | .traitObject _ bounds _ => (Bound.callbackValue? bounds).map fun v => ⟨v, .boxed, none⟩
      | _ => none
    | none => s.genericCallback? p
  | _ => none

/-- Whether a parameter is `self` with a type. -/
def isTypedSelf : FnArg → Bool
  | .typed _ (.name _ _ ident _) _ _ => ident.text == "self"
  | _ => false

/-- The callback that a function ends with. -/
def callback? (s : Signature) : Option Callback :=
  match s.inputs.getLast? with
  | some (.typed _ _ _ t) => if s.inputs.dropLast.any isTypedSelf then none else s.callbackOfTy? t
  | _ => none

/-! ## 3. Everything else -/

/-- A parameter that is passed on: the name it is bound to, if it is bound to a plain one, and its
type. -/
def forwardable? : FnArg → Option (Option Ident × Ty)
  | .receiver _ => none
  | .typed _ (.name none _ ident none) _ t => some (some ident, t)
  | .typed _ _ _ t => some (none, t)
  | .dots _ span => some (none, .other .verbatim (Part.ofTokens (operatorAt span ['.', '.', '.'])))

/-- The parameters in front of the callback with their types. One that is not bound to a plain name
is called `arg` and its number. -/
def forwarded (s : Signature) : List (Ident × Ty) :=
  (s.inputs.dropLast.filterMap forwardable?).mapIdx fun i (name, t) =>
    (name.getD (.new ("arg" ++ toString i)), t)

end Signature

/-- A `where` clause without the conditions on a type parameter; nothing if none is left. -/
def WhereClause.without (c : WhereClause) (name : Ident) : Option WhereClause :=
  let kept := c.predicates.filter (!·.boundsName name)
  if kept.isEmpty then none else some ⟨c.word, kept, false⟩

/-- Generics without a type parameter and the conditions on it. -/
def Generics.without (g : Generics) (name : Ident) : Generics where
  params := g.params.filter (!·.isTypeNamed name)
  trailing := false
  clause := g.clause.bind (·.without name)

end Graft
