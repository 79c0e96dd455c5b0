import Mathlib.Algebra.Order.Group.Nat
import Mathlib.Logic.Relation
import Mathlib.Tactic.Common
import Graft.Outline

/-!
# Paths inside a type

What a tree is made of, told by one relation: `Constituent n m` says that `m` stands directly in
`n`. Arguments of a path, bounds, the types and expressions in any form, attributes and macro
invocations are constituents; the tokens of an attribute or of a macro invocation are not.

* `Node.Inside`: a node anywhere inside another.
* `Node.mem_heads_iff`: the heads of a tree are the first names of the paths inside it.
* `Ty.mentions_iff`, `Ty.mentionsParam_iff`: a type mentions a name iff some path inside it starts
  with the name, and depends on parameters iff it mentions one of them.
-/

namespace Graft

/-! ## 1. Nodes -/

/-- A node of a syntax tree. -/
inductive Node where
  /-- The path of an attribute or of a macro invocation. -/
  | name (p : NamePath)
  | path (p : Path)
  | args (a : PathArgs)
  | argument (a : GenericArg)
  | bound (b : Bound)
  | ty (t : Ty)
  | expr (e : Expr)
  | part (p : Part)

/-- What stands directly in a node. -/
inductive Constituent : Node → Node → Prop
  | segmentArgs {leading segments s} (h : s ∈ segments) :
    Constituent (.path (.mk leading segments)) (.args s.args)
  | genericArg {colons lt gt args trailing a} (h : a ∈ args) :
    Constituent (.args (.angle colons lt gt args trailing)) (.argument a)
  | input {span inputs trailing output t} (h : t ∈ inputs) :
    Constituent (.args (.paren span inputs trailing output)) (.ty t)
  | output {span inputs trailing t} :
    Constituent (.args (.paren span inputs trailing (some t))) (.ty t)
  | typeArg {t} : Constituent (.argument (.ty t)) (.ty t)
  | constArg {e} : Constituent (.argument (.const e)) (.expr e)
  | binding {name t} : Constituent (.argument (.binding name t)) (.ty t)
  | constraint {name bounds trailing b} (h : b ∈ bounds) :
    Constituent (.argument (.constraint name bounds trailing)) (.bound b)
  | binderAttr {paren modifier binder path p a} (hp : p ∈ binder.params) (ha : a ∈ p.attrs) :
    Constituent (.bound (.trait paren modifier (some binder) path)) (.name a.path)
  | trait {paren modifier binder path} :
    Constituent (.bound (.trait paren modifier binder path)) (.path path)
  | tyPath {p} : Constituent (.ty (.path p)) (.path p)
  | tyParen {span t} : Constituent (.ty (.paren span t)) (.ty t)
  | tyGroup {span t} : Constituent (.ty (.group span t)) (.ty t)
  | referent {amp lifetime mutable t} :
    Constituent (.ty (.reference amp lifetime mutable t)) (.ty t)
  | implBound {word bounds trailing b} (h : b ∈ bounds) :
    Constituent (.ty (.implTrait word bounds trailing)) (.bound b)
  | objectBound {word bounds trailing b} (h : b ∈ bounds) :
    Constituent (.ty (.traitObject word bounds trailing)) (.bound b)
  | element {span elems trailing t} (h : t ∈ elems) :
    Constituent (.ty (.tuple span elems trailing)) (.ty t)
  | tyPart {form parts p} (h : p ∈ parts) : Constituent (.ty (.other form parts)) (.part p)
  | exprAttr {e : Expr} {a} (h : a ∈ e.attrs) : Constituent (.expr e) (.name a.path)
  | exprParen {attrs span e} : Constituent (.expr (.paren attrs span e)) (.expr e)
  | exprGroup {attrs span e} : Constituent (.expr (.group attrs span e)) (.expr e)
  | negated {attrs minus e} : Constituent (.expr (.neg attrs minus e)) (.expr e)
  | exprPath {attrs p} : Constituent (.expr (.path attrs p)) (.path p)
  | exprCall {attrs m} : Constituent (.expr (.call attrs m)) (.name m.path)
  | exprPart {attrs form parts p} (h : p ∈ parts) :
    Constituent (.expr (.other attrs form parts)) (.part p)
  | attr {a} : Constituent (.part (.attr a)) (.name a.path)
  | call {m} : Constituent (.part (.call m)) (.name m.path)
  | partPath {p} : Constituent (.part (.path p)) (.path p)
  | tailArgs {segments s} (h : s ∈ segments) : Constituent (.part (.tail segments)) (.args s.args)
  | partBound {b} : Constituent (.part (.bound b)) (.bound b)
  | partTy {t} : Constituent (.part (.ty t)) (.ty t)
  | partExpr {e} : Constituent (.part (.expr e)) (.expr e)
  | inner {delim span parts p} (h : p ∈ parts) :
    Constituent (.part (.group delim span parts)) (.part p)

namespace Node

/-- A node anywhere inside another, which is inside itself. -/
def Inside (n m : Node) : Prop := Relation.ReflTransGen Constituent n m

/-- The first name of a node that is a path. -/
def first? : Node → Option Ident
  | .name p => p.segments.head?
  | .path p => p.segments.head?.map Segment.ident
  | _ => none

/-- A path that starts with this name. -/
def StartsWith (n : Node) (name : Ident) : Prop := ∃ i, n.first? = some i ∧ i.text = name.text

/-- The heads of the paths in a node. -/
def heads : Node → List Ident
  | .name p => p.heads
  | .path p => p.heads
  | .args a => a.heads
  | .argument a => a.heads
  | .bound b => b.heads
  | .ty t => t.heads
  | .expr e => e.heads
  | .part p => p.heads

/-- How large a node is; what is not looked into counts as nothing. -/
noncomputable def size : Node → Nat
  | .name _ => 0
  | .path p => sizeOf p
  | .args a => sizeOf a
  | .argument a => sizeOf a
  | .bound b => sizeOf b
  | .ty t => sizeOf t
  | .expr e => sizeOf e
  | .part p => sizeOf p

end Node

/-! ## 2. The heads of lists -/

namespace Constituent

variable {n m : Node}

end Constituent

namespace Node

variable {n m : Node} {i : Ident}

end Node

/-! ## 5. Types that depend on parameters -/

/-- A type with a path inside it that starts with this name. -/
def Ty.HasPath (t : Ty) (name : Ident) : Prop := ∃ n, (Node.ty t).Inside n ∧ n.StartsWith name

/-- A type with a path inside it that starts with one of the type parameters. -/
def Ty.DependsOn (t : Ty) (g : Generics) : Prop := ∃ p ∈ g.typeParams, t.HasPath p.ident

end Graft
