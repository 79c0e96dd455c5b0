import Graft.Tree.Basic

/-!
# Declarations

Functions, types and the other items of source text. Each node has its `parts`, the pieces it is
written as, from which its tokens and its path heads follow.

* `Generics`: what a declaration is generic in; `paramParts` writes lifetimes first,
  `implParts` leaves out defaults and `nameParts` everything but the names.
* `Signature`, `FnArg`, `Receiver`, `Pat`: functions and their parameters.
* `Fields`, `Variant`, `Item`: declarations of types; items of other kinds keep their parts.
* `PropertyDecl`: a property written as a function signature, perhaps without a body.
-/

namespace Graft

/-! ## 1. Pieces -/

/-- Tokens as pieces. -/
def Part.ofTokens (ts : List Token) : List Part := ts.map .token

/-- An operator made up at the call site. -/
def Part.operator (text : String) : List Part := Part.ofTokens (Graft.operator text)

/-- A keyword at a place. -/
def Part.word (text : String) (span : Span) : Part := .token (.ident ⟨text, span⟩)

/-- A keyword, if it is written. -/
def Part.wordAt (text : String) (span : Option Span) : List Part :=
  Part.ofTokens (Graft.wordAt text span)

/-- Pieces with `sep` between neighbours and, if asked for, at the end. -/
def Part.punctuated (sep : String) (trailing : Bool) (xs : List (List Part)) : List Part :=
  (withCommas trailing xs).flatMap fun (ps, follows) =>
    ps ++ if follows then Part.operator sep else []

/-- Attributes that stand in front of what they speak of. -/
def outerParts (attrs : List Attribute) : List Part :=
  (attrs.filter (!·.inner)).map .attr

/-- Attributes that stand inside what they speak of. -/
def innerParts (attrs : List Attribute) : List Part :=
  (attrs.filter (·.inner)).map .attr

/-! ## 2. Generics -/

/-- A type parameter. -/
structure TypeParam where
  attrs : List Attribute
  ident : Ident
  bounds : List Bound
  trailing : Bool
  default : Option Ty
deriving Inhabited

/-- A parameter that stands for a constant. -/
structure ConstParam where
  attrs : List Attribute
  word : Span
  ident : Ident
  ty : Ty
  default : Option Expr
deriving Inhabited

/-- A generic parameter. -/
inductive GenericParam where
  | lifetime (p : LifetimeParam)
  | type (p : TypeParam)
  | const (p : ConstParam)
deriving Inhabited

/-- One condition of a `where` clause. -/
inductive WherePredicate where
  | lifetime (l : Lifetime) (bounds : List Lifetime) (trailing : Bool)
  | type (binder : Option Binder) (bounded : Ty) (bounds : List Bound) (trailing : Bool)
deriving Inhabited

/-- A `where` clause. -/
structure WhereClause where
  word : Span
  predicates : List WherePredicate
  trailing : Bool
deriving Inhabited

/-- What a declaration is generic in. -/
structure Generics where
  params : List GenericParam
  trailing : Bool
  clause : Option WhereClause
deriving Inhabited

/-- A colon and bounds; without bounds the colon vanishes. -/
def boundParts (bounds : List Bound) (trailing : Bool) : List Part :=
  if bounds.isEmpty then []
  else Part.operator ":" ++ Part.punctuated "+" trailing (bounds.map fun b => [.bound b])

namespace TypeParam

/-- A type parameter without its default. -/
def boundedParts (p : TypeParam) : List Part :=
  outerParts p.attrs ++ [.token (.ident p.ident)] ++ boundParts p.bounds p.trailing

/-- A type parameter. -/
def parts (p : TypeParam) : List Part :=
  p.boundedParts ++
    match p.default with
    | some t => Part.operator "=" ++ [.ty t]
    | none => []

end TypeParam

namespace ConstParam

/-- A constant parameter without its default. -/
def typedParts (p : ConstParam) : List Part :=
  outerParts p.attrs ++ [Part.word "const" p.word, .token (.ident p.ident)] ++
    Part.operator ":" ++ [.ty p.ty]

/-- A constant parameter. -/
def parts (p : ConstParam) : List Part :=
  p.typedParts ++
    match p.default with
    | some e => Part.operator "=" ++ [.expr e]
    | none => []

end ConstParam

/-- A lifetime parameter. -/
def LifetimeParam.parts (p : LifetimeParam) : List Part :=
  outerParts p.attrs ++ Part.ofTokens (LifetimeParam.tokens { p with attrs := [] })

namespace GenericParam

/-- Whether a parameter is a lifetime. -/
def isLifetime : GenericParam → Bool
  | .lifetime _ => true
  | _ => false

/-- The type parameter, if it is one. -/
def type? : GenericParam → Option TypeParam
  | .type p => some p
  | _ => none

/-- A parameter in full. -/
def parts : GenericParam → List Part
  | .lifetime p => p.parts
  | .type p => p.parts
  | .const p => p.parts

/-- A parameter without its default. -/
def implParts : GenericParam → List Part
  | .lifetime p => p.parts
  | .type p => p.boundedParts
  | .const p => p.typedParts

/-- The name of a parameter. -/
def nameParts : GenericParam → List Part
  | .lifetime p => Part.ofTokens p.lifetime.tokens
  | .type p => [.token (.ident p.ident)]
  | .const p => [.token (.ident p.ident)]

end GenericParam

/-- The binder of a predicate or type. -/
def binderParts : Option Binder → List Part
  | some b =>
    [Part.word "for" b.span] ++ Part.operator "<" ++
      Part.punctuated "," b.trailing (b.params.map LifetimeParam.parts) ++ Part.operator ">"
  | none => []

/-- A condition as it is written. -/
def WherePredicate.parts : WherePredicate → List Part
  | .lifetime l bounds trailing =>
    Part.ofTokens l.tokens ++ Part.operator ":" ++
      Part.punctuated "+" trailing (bounds.map fun b => Part.ofTokens b.tokens)
  | .type binder bounded bounds trailing =>
    binderParts binder ++ [.ty bounded] ++ Part.operator ":" ++
      Part.punctuated "+" trailing (bounds.map fun b => [.bound b])

/-- A `where` clause as it is written; without conditions it vanishes. -/
def WhereClause.parts (c : WhereClause) : List Part :=
  if c.predicates.isEmpty then []
  else Part.word "where" c.word :: Part.punctuated "," c.trailing (c.predicates.map (·.parts))

namespace Generics

/-- Nothing generic. -/
def empty : Generics := ⟨[], false, none⟩

/-- Parameters between angle brackets, written one way or another; without parameters the
brackets vanish. -/
def bracketed (g : Generics) (one : GenericParam → List Part) : List Part :=
  if g.params.isEmpty then []
  else
    Part.operator "<" ++
      lifetimesFirst (Part.operator ",") g.trailing (g.params.map fun p => (p.isLifetime, one p)) ++
      Part.operator ">"

/-- The parameters in full. -/
def paramParts (g : Generics) : List Part := g.bracketed GenericParam.parts

/-- The parameters as an `impl` declares them. -/
def implParts (g : Generics) : List Part := g.bracketed GenericParam.implParts

/-- The parameters as the declared type is applied to them. -/
def nameParts (g : Generics) : List Part := g.bracketed GenericParam.nameParts

/-- The `where` clause. -/
def clauseParts (g : Generics) : List Part :=
  match g.clause with
  | some c => c.parts
  | none => []

/-- The type parameters in order. -/
def typeParams (g : Generics) : List TypeParam := g.params.filterMap GenericParam.type?

/-- The conditions of the `where` clause. -/
def predicates (g : Generics) : List WherePredicate :=
  match g.clause with
  | some c => c.predicates
  | none => []

end Generics

/-! ## 3. Functions -/

/-- Who may use a declaration. -/
inductive Visibility where
  | inherited
  | everyone (span : Span)
  | unit (span : Span)
  | restricted (word paren : Span) (inWord : Option Span) (path : NamePath)
deriving Repr, Inhabited

/-- The path of a visibility as a piece. -/
def NamePath.toPath (p : NamePath) : Path := .mk p.leading (p.segments.map fun i => .mk i .none)

/-- A visibility as it is written. -/
def Visibility.parts : Visibility → List Part
  | .inherited => []
  | .everyone s => [Part.word "pub" s]
  | .unit s => [Part.word "crate" s]
  | .restricted word paren inWord path =>
    [Part.word "pub" word, .group .paren paren (Part.wordAt "in" inWord ++ [.path path.toPath])]

/-- A pattern; a plain name is told apart. -/
inductive Pat where
  | name (byRef mutable : Option Span) (ident : Ident) (sub : Option (List Part))
  | other (parts : List Part)
deriving Inhabited

/-- A pattern as it is written. -/
def Pat.parts : Pat → List Part
  | .name byRef mutable ident sub =>
    Part.wordAt "ref" byRef ++ Part.wordAt "mut" mutable ++ [.token (.ident ident)] ++
      match sub with
      | some ps => Part.operator "@" ++ ps
      | none => []
  | .other parts => parts

/-- A receiver such as `&mut self`. -/
structure Receiver where
  attrs : List Attribute
  reference : Option (Span × Option Lifetime)
  mutable : Option Span
  word : Span
deriving Repr, Inhabited

/-- A receiver as it is written. -/
def Receiver.parts (r : Receiver) : List Part :=
  outerParts r.attrs ++
    (match r.reference with
      | some (s, l) =>
        .token (.punct '&' .alone s) :: (match l with
          | some l => Part.ofTokens l.tokens
          | none => [])
      | none => []) ++
    Part.wordAt "mut" r.mutable ++ [Part.word "self" r.word]

/-- A parameter of a function. -/
inductive FnArg where
  | receiver (r : Receiver)
  | typed (attrs : List Attribute) (pat : Pat) (colon : Span) (ty : Ty)
  | dots (attrs : List Attribute) (span : Span)
deriving Inhabited

/-- A parameter as it is written. -/
def FnArg.parts : FnArg → List Part
  | .receiver r => r.parts
  | .typed attrs pat colon ty =>
    outerParts attrs ++ pat.parts ++ [.token (.punct ':' .alone colon), .ty ty]
  | .dots attrs span => outerParts attrs ++ Part.ofTokens (operatorAt span ['.', '.', '.'])

/-- The calling convention of a function. -/
structure Abi where
  word : Span
  name : Option Token
deriving Repr, Inhabited

/-- A calling convention as it is written. -/
def Abi.parts (a : Abi) : List Part :=
  Part.word "extern" a.word :: match a.name with
    | some t => [.token t]
    | none => []

/-- The signature of a function. -/
structure Signature where
  constant : Option Span
  async : Option Span
  unsafety : Option Span
  abi : Option Abi
  word : Span
  ident : Ident
  generics : Generics
  paren : Span
  inputs : List FnArg
  /-- Whether a comma follows the last parameter. -/
  trailing : Bool
  /-- The attributes and the place of a final `...`. -/
  variadic : Option (List Attribute × Span)
  output : Option Ty
deriving Inhabited

namespace Signature

/-- The parameters as they are written, a final `...` included. -/
def inputParts (s : Signature) : List Part :=
  Part.punctuated "," s.trailing (s.inputs.map FnArg.parts) ++
    match s.variadic with
    | some (attrs, span) =>
      (if s.inputs.isEmpty || s.trailing then [] else Part.operator ",") ++
        (FnArg.dots attrs span).parts
    | none => []

/-- The return type as it is written. -/
def outputParts (s : Signature) : List Part :=
  match s.output with
  | some t => Part.operator "->" ++ [.ty t]
  | none => []

/-- A signature as it is written. -/
def parts (s : Signature) : List Part :=
  Part.wordAt "const" s.constant ++ Part.wordAt "async" s.async ++
    Part.wordAt "unsafe" s.unsafety ++
    (match s.abi with
      | some a => a.parts
      | none => []) ++
    [Part.word "fn" s.word, .token (.ident s.ident)] ++ s.generics.paramParts ++
    [.group .paren s.paren s.inputParts] ++ s.outputParts ++ s.generics.clauseParts

end Signature

/-- Statements between braces. -/
structure Block where
  span : Span
  stmts : List Part
deriving Inhabited

/-- A block as it is written. -/
def Block.parts (b : Block) : List Part := [.group .brace b.span b.stmts]

/-! ## 4. Items -/

/-- A field of a struct, a union or an enum's variant. -/
structure Field where
  attrs : List Attribute
  vis : Visibility
  ident : Option Ident
  ty : Ty
deriving Inhabited

/-- A field as it is written. -/
def Field.parts (f : Field) : List Part :=
  outerParts f.attrs ++ f.vis.parts ++
    (match f.ident with
      | some i => .token (.ident i) :: Part.operator ":"
      | none => []) ++ [.ty f.ty]

/-- The fields of a struct or variant. -/
inductive Fields where
  | unit
  | named (span : Span) (fields : List Field) (trailing : Bool)
  | unnamed (span : Span) (fields : List Field) (trailing : Bool)
deriving Inhabited

/-- The fields in order. -/
def Fields.toList : Fields → List Field
  | .unit => []
  | .named _ fields _ => fields
  | .unnamed _ fields _ => fields

/-- Fields as they are written. -/
def Fields.parts : Fields → List Part
  | .unit => []
  | .named span fields trailing =>
    [.group .brace span (Part.punctuated "," trailing (fields.map Field.parts))]
  | .unnamed span fields trailing =>
    [.group .paren span (Part.punctuated "," trailing (fields.map Field.parts))]

/-- A variant of an enum. -/
structure Variant where
  attrs : List Attribute
  ident : Ident
  fields : Fields
  discriminant : Option Expr
deriving Inhabited

/-- A variant as it is written. -/
def Variant.parts (v : Variant) : List Part :=
  outerParts v.attrs ++ [.token (.ident v.ident)] ++ v.fields.parts ++
    match v.discriminant with
    | some e => Part.operator "=" ++ [.expr e]
    | none => []

/-- What the declarations of types have in common. -/
structure TypeHead where
  attrs : List Attribute
  vis : Visibility
  word : Span
  ident : Ident
  generics : Generics
deriving Inhabited

/-- The beginning of a type's declaration, up to its parameters. -/
def TypeHead.parts (keyword : String) (h : TypeHead) : List Part :=
  outerParts h.attrs ++ h.vis.parts ++ [Part.word keyword h.word, .token (.ident h.ident)] ++
    h.generics.paramParts

/-- A function with a body. -/
structure FnItem where
  attrs : List Attribute
  vis : Visibility
  sig : Signature
  body : Block
deriving Inhabited

/-- An item. -/
inductive Item where
  | struct (head : TypeHead) (fields : Fields)
  | enum (head : TypeHead) (span : Span) (variants : List Variant) (trailing : Bool)
  | union (head : TypeHead) (span : Span) (fields : List Field) (trailing : Bool)
  | function (f : FnItem)
  | other (attrs : List Attribute) (parts : List Part)
  | verbatim (tokens : List Token)
deriving Inhabited

namespace Item

/-- An item as it is written. -/
def parts : Item → List Part
  | .struct head fields =>
    head.parts "struct" ++
      match fields with
      | .named .. => head.generics.clauseParts ++ fields.parts
      | .unnamed .. => fields.parts ++ head.generics.clauseParts ++ Part.operator ";"
      | .unit => head.generics.clauseParts ++ Part.operator ";"
  | .enum head span variants trailing =>
    head.parts "enum" ++ head.generics.clauseParts ++
      [.group .brace span (Part.punctuated "," trailing (variants.map Variant.parts))]
  | .union head span fields trailing =>
    head.parts "union" ++ head.generics.clauseParts ++
      [.group .brace span (Part.punctuated "," trailing (fields.map Field.parts))]
  | .function f =>
    outerParts f.attrs ++ f.vis.parts ++ f.sig.parts ++
      [.group .brace f.body.span (innerParts f.attrs ++ f.body.stmts)]
  | .other attrs parts => outerParts attrs ++ parts
  | .verbatim tokens => Part.ofTokens tokens

/-- The tokens of an item. -/
def tokens (item : Item) : List Token := Part.tokensOf item.parts

/-- An item with more attributes in front. An item that is kept as it was read has no place for
them. -/
def prependAttrs (more : List Attribute) : Item → Item
  | .struct head fields => .struct { head with attrs := more ++ head.attrs } fields
  | .enum head span variants trailing =>
    .enum { head with attrs := more ++ head.attrs } span variants trailing
  | .union head span fields trailing =>
    .union { head with attrs := more ++ head.attrs } span fields trailing
  | .function f => .function { f with attrs := more ++ f.attrs }
  | .other attrs parts => .other (more ++ attrs) parts
  | .verbatim tokens => .verbatim tokens

end Item

/-- A property written as a function signature: `fn name(&self) -> T;`. -/
structure PropertyDecl where
  attrs : List Attribute
  vis : Visibility
  sig : Signature
  body : Option Block
deriving Inhabited

/-- The tokens of a property's declaration. -/
def PropertyDecl.tokens (d : PropertyDecl) : List Token :=
  attributeTokens d.attrs ++ Part.tokensOf (d.vis.parts ++ d.sig.parts) ++
    match d.body with
    | some b => Part.tokensOf b.parts
    | none => operator ";"

end Graft
