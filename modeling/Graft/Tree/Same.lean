import Graft.Tree.Basic

/-!
# Equality up to positions

Two trees are the same if they differ in positions at most. The order of generic arguments counts,
and so does a comma behind the last one: `Ref<T, 'a>` and `Ref<'a, T,>` are different types, though
both are written with the lifetime first and a comma at the end.

* `Ty.same`, `Expr.same`, …: the comparison, form by form.
-/

namespace Graft

/-! ## 1. Small nodes -/

/-- Whether two values are both missing, or both there and the same. -/
def sameOption {α : Type} (same : α → α → Bool) : Option α → Option α → Bool
  | some a, some b => same a b
  | none, none => true
  | _, _ => false

/-- Whether two lifetimes have the same name. -/
def Lifetime.same (a b : Lifetime) : Bool := a.name.same b.name

/-- Whether two paths have the same names and both or neither a leading `::`. -/
def NamePath.same (a b : NamePath) : Bool :=
  a.leading.isSome == b.leading.isSome && a.segments.isEqv b.segments Ident.same

/-- Whether two attributes have the same path and the same tokens behind it. -/
def Attribute.same (a b : Attribute) : Bool :=
  a.inner == b.inner && a.path.same b.path && Token.sameList a.tokens b.tokens

/-- Whether two macro invocations have the same name, delimiters and tokens. -/
def MacroCall.same (a b : MacroCall) : Bool :=
  a.path.same b.path && a.delim == b.delim && Token.sameList a.tokens b.tokens

/-- Whether two declarations of a lifetime are the same. -/
def LifetimeParam.same (a b : LifetimeParam) : Bool :=
  a.attrs.isEqv b.attrs Attribute.same && a.lifetime.same b.lifetime &&
    a.bounds.isEqv b.bounds Lifetime.same && a.trailing == b.trailing

/-- Whether two `for<..>` introduce the same lifetimes. -/
def Binder.same (a b : Binder) : Bool :=
  a.params.isEqv b.params LifetimeParam.same && a.trailing == b.trailing

/-! ## 2. Trees -/

mutual

/-- Whether two paths are the same. -/
def Path.same : Path → Path → Bool
  | .mk l ss, .mk l' ss' => l.isSome == l'.isSome && Segment.sameAll ss ss'

/-- Whether two lists of segments are the same. -/
def Segment.sameAll : List Segment → List Segment → Bool
  | [], [] => true
  | s :: rest, s' :: rest' => s.same s' && Segment.sameAll rest rest'
  | _, _ => false

/-- Whether two segments are the same. -/
def Segment.same : Segment → Segment → Bool
  | .mk i as, .mk i' as' => i.same i' && as.same as'

/-- Whether the arguments of two segments are the same. -/
def PathArgs.same : PathArgs → PathArgs → Bool
  | .none, .none => true
  | .angle c _ _ as t, .angle c' _ _ as' t' => c == c' && GenericArg.sameAll as as' && t == t'
  | .paren _ ins t out, .paren _ ins' t' out' =>
    Ty.sameAll ins ins' && t == t' && Ty.sameOutput out out'
  | _, _ => false

/-- Whether two lists of generic arguments are the same. -/
def GenericArg.sameAll : List GenericArg → List GenericArg → Bool
  | [], [] => true
  | a :: rest, a' :: rest' => a.same a' && GenericArg.sameAll rest rest'
  | _, _ => false

/-- Whether two generic arguments are the same. -/
def GenericArg.same : GenericArg → GenericArg → Bool
  | .lifetime l, .lifetime l' => l.same l'
  | .ty t, .ty t' => t.same t'
  | .const e, .const e' => e.same e'
  | .binding i t, .binding i' t' => i.same i' && t.same t'
  | .constraint i bs t, .constraint i' bs' t' => i.same i' && Bound.sameAll bs bs' && t == t'
  | _, _ => false

/-- Whether two lists of bounds are the same. -/
def Bound.sameAll : List Bound → List Bound → Bool
  | [], [] => true
  | b :: rest, b' :: rest' => b.same b' && Bound.sameAll rest rest'
  | _, _ => false

/-- Whether two bounds are the same. -/
def Bound.same : Bound → Bound → Bool
  | .lifetime l, .lifetime l' => l.same l'
  | .trait s m b p, .trait s' m' b' p' =>
    s.isSome == s'.isSome && m.isSome == m'.isSome && sameOption Binder.same b b' && p.same p'
  | _, _ => false

/-- Whether two lists of types are the same. -/
def Ty.sameAll : List Ty → List Ty → Bool
  | [], [] => true
  | t :: rest, t' :: rest' => t.same t' && Ty.sameAll rest rest'
  | _, _ => false

/-- Whether two results are the same, if there are any. -/
def Ty.sameOutput : Option Ty → Option Ty → Bool
  | some t, some t' => t.same t'
  | none, none => true
  | _, _ => false

/-- Whether two types are the same. -/
def Ty.same : Ty → Ty → Bool
  | .path p, .path p' => p.same p'
  | .paren _ t, .paren _ t' => t.same t'
  | .group _ t, .group _ t' => t.same t'
  | .reference _ l m t, .reference _ l' m' t' =>
    sameOption Lifetime.same l l' && m.isSome == m'.isSome && t.same t'
  | .implTrait _ bs t, .implTrait _ bs' t' => Bound.sameAll bs bs' && t == t'
  | .traitObject w bs t, .traitObject w' bs' t' =>
    w.isSome == w'.isSome && Bound.sameAll bs bs' && t == t'
  | .tuple _ ts t, .tuple _ ts' t' => Ty.sameAll ts ts' && t == t'
  | .other f ps, .other f' ps' => f == f' && Part.sameAll ps ps'
  | _, _ => false

/-- Whether two expressions are the same. -/
def Expr.same : Expr → Expr → Bool
  | .lit as t v, .lit as' t' v' =>
    as.isEqv as' Attribute.same && Token.sameList [t] [t'] && v == v'
  | .paren as _ e, .paren as' _ e' => as.isEqv as' Attribute.same && e.same e'
  | .group as _ e, .group as' _ e' => as.isEqv as' Attribute.same && e.same e'
  | .neg as _ e, .neg as' _ e' => as.isEqv as' Attribute.same && e.same e'
  | .path as p, .path as' p' => as.isEqv as' Attribute.same && p.same p'
  | .call as m, .call as' m' => as.isEqv as' Attribute.same && m.same m'
  | .other as f ps, .other as' f' ps' =>
    as.isEqv as' Attribute.same && f == f' && Part.sameAll ps ps'
  | _, _ => false

/-- Whether two lists of parts are the same. -/
def Part.sameAll : List Part → List Part → Bool
  | [], [] => true
  | p :: rest, p' :: rest' => p.same p' && Part.sameAll rest rest'
  | _, _ => false

/-- Whether two parts are the same. -/
def Part.same : Part → Part → Bool
  | .token t, .token t' => Token.sameList [t] [t']
  | .attr a, .attr a' => a.same a'
  | .call m, .call m' => m.same m'
  | .path p, .path p' => p.same p'
  | .tail ss, .tail ss' => Segment.sameAll ss ss'
  | .bound b, .bound b' => b.same b'
  | .ty t, .ty t' => t.same t'
  | .expr e, .expr e' => e.same e'
  | .group d _ ps, .group d' _ ps' => d == d' && Part.sameAll ps ps'
  | _, _ => false

end

end Graft
