import Graft.Token.Basic
import Graft.Literal

/-!
# Syntax trees

Types, paths and expressions as trees. A form that some transform looks into has a constructor of
its own; every other form is kept as `other`, the name of the form with its pieces in order, so
nothing of the source is lost.

* `Path`, `Ty`, `Expr`, `Bound` and `Part`: the trees. A `Part` is one piece of a form: a token, a
  delimited sequence of parts, or a tree again.
* `Ty.tokens`, `Expr.tokens`, …: the tokens of a tree.
* `Ty.heads`, `Expr.heads`, …: the first segments of all paths in a tree, at any depth. A tree
  mentions a name iff the name is among them.
-/

namespace Graft

/-! ## 1. Small nodes -/

/-- A lifetime such as `'a`. -/
structure Lifetime where
  tick : Span
  name : Ident
deriving DecidableEq, Repr, Inhabited

/-- The tokens of a lifetime. -/
def Lifetime.tokens (l : Lifetime) : List Token :=
  [.punct '\'' .joint l.tick, .ident l.name]

/-- A path without arguments: `a::b`, `::core::fmt`. -/
structure NamePath where
  /-- Where the leading `::` stands, if there is one. -/
  leading : Option Span
  segments : List Ident
deriving DecidableEq, Repr, Inhabited

/-- The `::` in front of a path. -/
def leadingColons : Option Span → List Token
  | some s => operatorAt s [':', ':']
  | none => []

/-- Lists of tokens with `sep` between neighbours. -/
def joinTokens (sep : List Token) : List (List Token) → List Token
  | [] => []
  | [ts] => ts
  | ts :: next :: rest => ts ++ sep ++ joinTokens sep (next :: rest)

/-- Lists of tokens with `sep` between neighbours and, if there are any, perhaps at the end. -/
def punctuated (sep : String) (trailing : Bool) (xs : List (List Token)) : List Token :=
  joinTokens (operator sep) xs ++ if trailing then operator sep else []

/-- The tokens of a path without arguments. -/
def NamePath.tokens (p : NamePath) : List Token :=
  leadingColons p.leading ++ joinTokens (operator "::") (p.segments.map fun i => [.ident i])

/-- The only segment of a path that has one segment and no leading `::`. -/
def NamePath.single? (p : NamePath) : Option Ident :=
  match p.leading, p.segments with
  | none, [i] => some i
  | _, _ => none

/-- Whether a path is just this name. -/
def NamePath.isName (p : NamePath) (name : String) : Bool :=
  match p.single? with
  | some i => i.text == name
  | none => false

/-- An attribute: a path, and any tokens after it. -/
structure Attribute where
  pound : Span
  /-- An inner attribute, written `#![..]`, speaks of what encloses it. -/
  inner : Bool
  bracket : Span
  path : NamePath
  tokens : List Token
deriving Repr, Inhabited

/-- The tokens of an attribute, its brackets included. -/
def Attribute.render (a : Attribute) : List Token :=
  [.punct '#' .alone a.pound] ++ (if a.inner then operator "!" else []) ++
    [.group .bracket (a.path.tokens ++ a.tokens) a.bracket]

/-- The tokens of a list of attributes. -/
def attributeTokens (attrs : List Attribute) : List Token := attrs.flatMap Attribute.render

/-- A macro invocation: a name and a group of tokens that are not looked into. -/
structure MacroCall where
  path : NamePath
  bang : Span
  delim : Delimiter
  span : Span
  tokens : List Token
deriving Repr, Inhabited

/-- The tokens of a macro invocation. -/
def MacroCall.render (m : MacroCall) : List Token :=
  m.path.tokens ++ [.punct '!' .alone m.bang, .group m.delim m.tokens m.span]

/-- A lifetime that a declaration introduces, with the lifetimes it outlives. -/
structure LifetimeParam where
  attrs : List Attribute
  lifetime : Lifetime
  bounds : List Lifetime
  trailing : Bool
deriving Repr, Inhabited

/-- The tokens of a lifetime's declaration; a colon without bounds vanishes. -/
def LifetimeParam.tokens (p : LifetimeParam) : List Token :=
  attributeTokens p.attrs ++ p.lifetime.tokens ++
    if p.bounds.isEmpty then []
    else operator ":" ++ punctuated "+" p.trailing (p.bounds.map Lifetime.tokens)

/-- The lifetimes that a `for<..>` introduces. -/
structure Binder where
  span : Span
  params : List LifetimeParam
  trailing : Bool
deriving Repr, Inhabited

/-- The tokens of `for<..>`. -/
def Binder.tokens (b : Binder) : List Token :=
  [.ident ⟨"for", b.span⟩] ++ operator "<" ++
    punctuated "," b.trailing (b.params.map LifetimeParam.tokens) ++ operator ">"

/-- The tokens of `for<..>`, if there is one. -/
def binderTokens : Option Binder → List Token
  | some b => b.tokens
  | none => []

/-! ## 2. Forms -/

/-- Types whose inside no transform looks into. -/
inductive TyForm where
  | qualified
  | array
  | slice
  | pointer
  | never
  | infer
  | function
  | call
  | verbatim
deriving DecidableEq, Repr, Inhabited

/-- Expressions whose inside no transform looks into. -/
inductive ExprForm where
  | array
  | assignment
  | asyncBlock
  | awaiting
  | binary
  | block
  | boxed
  | breaking
  | call
  | cast
  | closure
  | continuing
  | field
  | forLoop
  | conditional
  | index
  | letBinding
  | looping
  | matching
  | methodCall
  | qualified
  | range
  | reference
  | repeated
  | returning
  | record
  | trying
  | tryBlock
  | tuple
  | ascription
  | unary
  | unsafeBlock
  | verbatim
  | whileLoop
  | yielding
  | negativeLiteral
deriving DecidableEq, Repr, Inhabited

/-! ## 3. Trees -/

mutual

/-- A path: `a::b<T>`, `::core::fmt`. -/
inductive Path where
  | mk (leading : Option Span) (segments : List Segment)

/-- One segment of a path. -/
inductive Segment where
  | mk (ident : Ident) (args : PathArgs)

/-- The arguments of a path segment: none, `<..>`, or `(..) -> T`. -/
inductive PathArgs where
  | none
  | angle (colons : Bool) (lt gt : Span) (args : List GenericArg) (trailing : Bool)
  | paren (span : Span) (inputs : List Ty) (trailing : Bool) (output : Option Ty)

/-- An argument between angle brackets. -/
inductive GenericArg where
  | lifetime (l : Lifetime)
  | ty (t : Ty)
  | const (e : Expr)
  | binding (name : Ident) (t : Ty)
  | constraint (name : Ident) (bounds : List Bound) (trailing : Bool)

/-- A bound on a type: a lifetime it outlives or a trait it has. -/
inductive Bound where
  | lifetime (l : Lifetime)
  | trait (paren : Option Span) (modifier : Option Span) (binder : Option Binder) (path : Path)

/-- A type. -/
inductive Ty where
  | path (p : Path)
  | paren (span : Span) (t : Ty)
  | group (span : Span) (t : Ty)
  | reference (amp : Span) (lifetime : Option Lifetime) (mutable : Option Span) (t : Ty)
  | implTrait (word : Span) (bounds : List Bound) (trailing : Bool)
  | traitObject (word : Option Span) (bounds : List Bound) (trailing : Bool)
  | tuple (span : Span) (elems : List Ty) (trailing : Bool)
  | other (form : TyForm) (parts : List Part)

/-- An expression, with the attributes in front of it. -/
inductive Expr where
  | lit (attrs : List Attribute) (token : Token) (value : Lit)
  | paren (attrs : List Attribute) (span : Span) (e : Expr)
  | group (attrs : List Attribute) (span : Span) (e : Expr)
  | neg (attrs : List Attribute) (minus : Span) (e : Expr)
  | path (attrs : List Attribute) (p : Path)
  | call (attrs : List Attribute) (m : MacroCall)
  | other (attrs : List Attribute) (form : ExprForm) (parts : List Part)

/-- A piece of a form. -/
inductive Part where
  | token (t : Token)
  | attr (a : Attribute)
  | call (m : MacroCall)
  | path (p : Path)
  /-- Segments that go on a path after a `::`, as those behind `<T as A>`. -/
  | tail (segments : List Segment)
  | bound (b : Bound)
  | ty (t : Ty)
  | expr (e : Expr)
  | group (delim : Delimiter) (span : Span) (inner : List Part)

end

instance : Inhabited Path := ⟨.mk none []⟩
instance : Inhabited Segment := ⟨.mk default .none⟩
instance : Inhabited Ty := ⟨.tuple .callSite [] false⟩
instance : Inhabited Expr := ⟨.other [] .verbatim []⟩
instance : Inhabited Part := ⟨.token default⟩
instance : Inhabited Bound := ⟨.lifetime default⟩

/-! ## 4. Order and commas

Lifetimes are written before everything else, each with the comma that follows it in the source.
If the last of them has none and something is left to write, a comma is inserted. -/

/-- Entries with the comma that follows each: all but the last have one, and the last has one if
the list ends with a comma. -/
def withCommas {α : Type} (trailing : Bool) : List α → List (α × Bool)
  | [] => []
  | [x] => [(x, trailing)]
  | x :: next :: rest => (x, true) :: withCommas trailing (next :: rest)

/-- Entries and the commas after them, as one list. -/
def commaJoined {α : Type} (comma : List α) (xs : List (List α × Bool)) : List α :=
  xs.flatMap fun (entry, follows) => entry ++ if follows then comma else []

/-- Whether a list of entries lacks a comma at its end. -/
def lacksComma {α : Type} (xs : List (List α × Bool)) : Bool :=
  match xs.getLast? with
  | some (_, comma) => !comma
  | none => false

/-- Entries in the order they are written, those marked as lifetimes first. -/
def lifetimesFirst {α : Type} (comma : List α) (trailing : Bool) (xs : List (Bool × List α)) :
    List α :=
  let all := (withCommas trailing xs).map fun ((isLifetime, ts), follows) =>
    (isLifetime, ts, follows)
  let pick (b : Bool) := (all.filter (·.1 == b)).map (·.2)
  commaJoined comma (pick true) ++
    (if lacksComma (pick true) && !(pick false).isEmpty then comma else []) ++
    commaJoined comma (pick false)

/-! ## 5. Tokens of a tree -/

/-- A keyword, if it is written. -/
def wordAt (text : String) : Option Span → List Token
  | some s => [.ident ⟨text, s⟩]
  | none => []

mutual

/-- The tokens of a path. -/
def Path.tokens : Path → List Token
  | .mk leading segments =>
    leadingColons leading ++ joinTokens (operator "::") (Segment.each segments)

/-- The tokens of each segment. -/
def Segment.each : List Segment → List (List Token)
  | [] => []
  | s :: rest => s.tokens :: Segment.each rest

/-- The tokens of a segment. -/
def Segment.tokens : Segment → List Token
  | .mk ident args => .ident ident :: args.tokens

/-- The tokens of a segment's arguments. -/
def PathArgs.tokens : PathArgs → List Token
  | .none => []
  | .angle colons lt gt args trailing =>
    (if colons then operator "::" else []) ++ [.punct '<' .alone lt] ++
      lifetimesFirst (operator ",") trailing (GenericArg.each args) ++ [.punct '>' .alone gt]
  | .paren span inputs trailing output =>
    .group .paren (punctuated "," trailing (Ty.each inputs)) span ::
      match output with
      | some t => operator "->" ++ t.tokens
      | Option.none => []

/-- The tokens of each argument, and whether it is a lifetime. -/
def GenericArg.each : List GenericArg → List (Bool × List Token)
  | [] => []
  | a :: rest => (a.isLifetime, a.tokens) :: GenericArg.each rest

/-- Whether an argument is a lifetime. -/
def GenericArg.isLifetime : GenericArg → Bool
  | .lifetime _ => true
  | _ => false

/-- The tokens of an argument. -/
def GenericArg.tokens : GenericArg → List Token
  | .lifetime l => l.tokens
  | .ty t => t.tokens
  | .const e => e.tokens
  | .binding name t => .ident name :: (operator "=" ++ t.tokens)
  | .constraint name bounds trailing =>
    .ident name :: (operator ":" ++ punctuated "+" trailing (Bound.each bounds))

/-- The tokens of each bound. -/
def Bound.each : List Bound → List (List Token)
  | [] => []
  | b :: rest => b.tokens :: Bound.each rest

/-- The tokens of a bound. -/
def Bound.tokens : Bound → List Token
  | .lifetime l => l.tokens
  | .trait paren modifier binder path =>
    let inner := (match modifier with
      | some s => [.punct '?' .alone s]
      | none => []) ++ binderTokens binder ++ path.tokens
    match paren with
    | some s => [.group .paren inner s]
    | none => inner

/-- The tokens of each type. -/
def Ty.each : List Ty → List (List Token)
  | [] => []
  | t :: rest => t.tokens :: Ty.each rest

/-- The tokens of a type. -/
def Ty.tokens : Ty → List Token
  | .path p => p.tokens
  | .paren s t => [.group .paren t.tokens s]
  | .group s t => [.group .invisible t.tokens s]
  | .reference amp lifetime mutable t =>
    .punct '&' .alone amp :: ((match lifetime with
      | some l => l.tokens
      | none => []) ++ wordAt "mut" mutable ++ t.tokens)
  | .implTrait word bounds trailing =>
    .ident ⟨"impl", word⟩ :: punctuated "+" trailing (Bound.each bounds)
  | .traitObject word bounds trailing =>
    wordAt "dyn" word ++ punctuated "+" trailing (Bound.each bounds)
  | .tuple s elems trailing => [.group .paren (punctuated "," trailing (Ty.each elems)) s]
  | .other _ parts => Part.tokensOf parts

/-- The tokens of an expression. -/
def Expr.tokens : Expr → List Token
  | .lit attrs token _ => attributeTokens attrs ++ [token]
  | .paren attrs s e => attributeTokens attrs ++ [.group .paren e.tokens s]
  | .group attrs s e => attributeTokens attrs ++ [.group .invisible e.tokens s]
  | .neg attrs minus e => attributeTokens attrs ++ .punct '-' .alone minus :: e.tokens
  | .path attrs p => attributeTokens attrs ++ p.tokens
  | .call attrs m => attributeTokens attrs ++ m.render
  | .other attrs _ parts => attributeTokens attrs ++ Part.tokensOf parts

/-- The tokens of parts in order. -/
def Part.tokensOf : List Part → List Token
  | [] => []
  | p :: rest => p.tokens ++ Part.tokensOf rest

/-- The tokens of a part. -/
def Part.tokens : Part → List Token
  | .token t => [t]
  | .attr a => a.render
  | .call m => m.render
  | .path p => p.tokens
  | .tail segments => joinTokens (operator "::") (Segment.each segments)
  | .bound b => b.tokens
  | .ty t => t.tokens
  | .expr e => e.tokens
  | .group d s inner => [.group d (Part.tokensOf inner) s]

end

/-! ## 6. Path heads -/

/-- The first segment of a path without arguments, as a list. -/
def NamePath.heads (p : NamePath) : List Ident := p.segments.take 1

/-- The heads of the paths of attributes. -/
def attributeHeads (attrs : List Attribute) : List Ident := attrs.flatMap fun a => a.path.heads

/-- The heads of the paths in `for<..>`. -/
def binderHeads : Option Binder → List Ident
  | some b => b.params.flatMap fun p => attributeHeads p.attrs
  | none => []

mutual

/-- The path's own first segment, and the heads of the paths in its arguments. -/
def Path.heads : Path → List Ident
  | .mk _ segments =>
    (match segments with
      | .mk ident _ :: _ => [ident]
      | [] => []) ++ Segment.headsOf segments

/-- The heads of the paths in the arguments of segments. -/
def Segment.headsOf : List Segment → List Ident
  | [] => []
  | .mk _ args :: rest => args.heads ++ Segment.headsOf rest

/-- The heads of the paths in a segment's arguments. -/
def PathArgs.heads : PathArgs → List Ident
  | .none => []
  | .angle _ _ _ args _ => GenericArg.headsOf args
  | .paren _ inputs _ output =>
    Ty.headsOf inputs ++ match output with
      | some t => t.heads
      | Option.none => []

/-- The heads of the paths in generic arguments. -/
def GenericArg.headsOf : List GenericArg → List Ident
  | [] => []
  | a :: rest => a.heads ++ GenericArg.headsOf rest

/-- The heads of the paths in a generic argument. -/
def GenericArg.heads : GenericArg → List Ident
  | .lifetime _ => []
  | .ty t => t.heads
  | .const e => e.heads
  | .binding _ t => t.heads
  | .constraint _ bounds _ => Bound.headsOf bounds

/-- The heads of the paths in bounds. -/
def Bound.headsOf : List Bound → List Ident
  | [] => []
  | b :: rest => b.heads ++ Bound.headsOf rest

/-- The heads of the paths in a bound. -/
def Bound.heads : Bound → List Ident
  | .lifetime _ => []
  | .trait _ _ binder path => binderHeads binder ++ path.heads

/-- The heads of the paths in types. -/
def Ty.headsOf : List Ty → List Ident
  | [] => []
  | t :: rest => t.heads ++ Ty.headsOf rest

/-- The heads of the paths in a type. -/
def Ty.heads : Ty → List Ident
  | .path p => p.heads
  | .paren _ t => t.heads
  | .group _ t => t.heads
  | .reference _ _ _ t => t.heads
  | .implTrait _ bounds _ => Bound.headsOf bounds
  | .traitObject _ bounds _ => Bound.headsOf bounds
  | .tuple _ elems _ => Ty.headsOf elems
  | .other _ parts => Part.headsOf parts

/-- The heads of the paths in an expression. -/
def Expr.heads : Expr → List Ident
  | .lit attrs _ _ => attributeHeads attrs
  | .paren attrs _ e => attributeHeads attrs ++ e.heads
  | .group attrs _ e => attributeHeads attrs ++ e.heads
  | .neg attrs _ e => attributeHeads attrs ++ e.heads
  | .path attrs p => attributeHeads attrs ++ p.heads
  | .call attrs m => attributeHeads attrs ++ m.path.heads
  | .other attrs _ parts => attributeHeads attrs ++ Part.headsOf parts

/-- The heads of the paths in parts. -/
def Part.headsOf : List Part → List Ident
  | [] => []
  | p :: rest => p.heads ++ Part.headsOf rest

/-- The heads of the paths in a part. -/
def Part.heads : Part → List Ident
  | .token _ => []
  | .attr a => a.path.heads
  | .call m => m.path.heads
  | .path p => p.heads
  | .tail segments => Segment.headsOf segments
  | .bound b => b.heads
  | .ty t => t.heads
  | .expr e => e.heads
  | .group _ _ inner => Part.headsOf inner

end

/-! ## 7. Views -/

namespace Path

/-- The segments of a path. -/
def segments : Path → List Segment
  | .mk _ segments => segments

/-- Where the leading `::` stands, if there is one. -/
def leading : Path → Option Span
  | .mk leading _ => leading

/-- The name of a path that is one name: no leading `::`, one segment, no arguments. -/
def single? : Path → Option Ident
  | .mk none [.mk ident .none] => some ident
  | _ => none

/-- The last segment. -/
def last? (p : Path) : Option Segment := p.segments.getLast?

/-- Whether no segment has arguments. -/
def plain (p : Path) : Bool :=
  p.segments.all fun
    | .mk _ .none => true
    | _ => false

/-- The names of the segments. -/
def names (p : Path) : NamePath :=
  ⟨p.leading, p.segments.map fun | .mk ident _ => ident⟩

end Path

/-- The name of a segment. -/
def Segment.ident : Segment → Ident
  | .mk ident _ => ident

/-- The arguments of a segment. -/
def Segment.args : Segment → PathArgs
  | .mk _ args => args

/-- The attributes in front of an expression. -/
def Expr.attrs : Expr → List Attribute
  | .lit attrs _ _ => attrs
  | .paren attrs _ _ => attrs
  | .group attrs _ _ => attrs
  | .neg attrs _ _ => attrs
  | .path attrs _ => attrs
  | .call attrs _ => attrs
  | .other attrs _ _ => attrs

/-- An expression with other attributes in front of it. -/
def Expr.withAttrs (attrs : List Attribute) : Expr → Expr
  | .lit _ token value => .lit attrs token value
  | .paren _ s e => .paren attrs s e
  | .group _ s e => .group attrs s e
  | .neg _ minus e => .neg attrs minus e
  | .path _ p => .path attrs p
  | .call _ m => .call attrs m
  | .other _ form parts => .other attrs form parts

/-- Whether a path anywhere inside a type starts with this name. -/
def Ty.mentions (t : Ty) (name : Ident) : Bool := t.heads.any (·.same name)

/-- Whether a path anywhere inside parts starts with this name. -/
def Part.mention (parts : List Part) (name : Ident) : Bool :=
  (Part.headsOf parts).any (·.same name)

end Graft
