import Graft.Grammar.Rules

/-!
# Types, paths and bounds

* `path` and `anyPath`: paths with arguments, and paths that start from a type, `<T as A>::B`.
* `bound`, `bounds`: what a type is asked to have.
* `ty`: a type.
* `generics`, `whereClause`: the parameters of a declaration and the conditions on them.

A path is read in one of two styles: in an expression the arguments need a `::` in front, so that
`a < b` is a comparison.
-/

namespace Graft.Grammar

open Graft.Parser

/-! ## 1. Blocks -/

/-- Statements between braces; `inner` allows attributes at their beginning. -/
def body (r : Rules) (inner : Bool) : Parser Part :=
  groupPart .brace do
    let attrs ← if inner then innerAttributes else pure []
    let stmts ← r.stmts
    return attrs.map .attr ++ stmts

/-- A label such as `'a:`, if a lifetime is next. -/
def label? : Parser (List Part) := do
  if ← peek Peek.lifetime then
    let l ← lifetime
    let colon ← op ":"
    return (l.tokens ++ colon).map .token
  else return []

/-- A block as an expression. -/
def blockExpr (r : Rules) : Parser Expr := do
  let attrs ← outerAttributes
  let label ← label?
  let block ← body r true
  return .other attrs .block (label ++ [block])

/-! ## 2. Paths -/

/-- A constant among generic arguments: a literal, a name or a block. -/
def constArg (r : Rules) : Parser Expr := do
  if ← peekLit then lit
  else if ← peek Peek.name then
    let i ← name
    return .path [] (.mk none [.mk i .none])
  else if ← peek (Peek.group .brace) then blockExpr r
  else expected []

/-- A return type behind `->`. -/
def returnType (r : Rules) (plus : Bool) : Parser (Option Ty) := do
  if ← peek (Peek.op "->") then
    let _ ← op "->"
    return some (← r.ty plus true)
  else return none

/-- What may follow the `+` of a list of bounds. -/
def peekBound : Peek := fun ts =>
  Peek.anyWord ts || Peek.op "::" ts || Peek.op "?" ts || Peek.lifetime ts ||
    Peek.group .paren ts || Peek.op "~" ts

/-- A lifetime's declaration: the lifetime and those it outlives. -/
def lifetimeParam : Parser LifetimeParam := do
  let attrs ← outerAttributes
  let l ← lifetime
  if ← peek (Peek.op ":") then
    let _ ← op ":"
    let (bounds, trailing) ← joined "+" (Peek.or (Peek.op ",") (Peek.op ">")) lifetime
    return ⟨attrs, l, bounds, trailing⟩
  else return ⟨attrs, l, [], false⟩

/-- The lifetimes of a `for<..>`, if it is next. -/
def binder? : Parser (Option Binder) := do
  if ← peek (Peek.word "for") then
    let word ← keyword "for"
    let _ ← op "<"
    let (params, trailing) ← separated "," (peek (Peek.op ">")) lifetimeParam
    let _ ← op ">"
    return some ⟨word, params, trailing⟩
  else return none

/-- Whether a segment has no arguments, or an empty list of them. -/
def noArgs : Segment → Bool
  | .mk _ .none => true
  | .mk _ (.angle _ _ _ [] _) => true
  | _ => false

/-- A list of segments whose last one gets other arguments. -/
def setLastArgs (args : PathArgs) : List Segment → List Segment
  | [] => []
  | [.mk i _] => [.mk i args]
  | s :: rest => s :: setLastArgs args rest

/-- Parenthesised arguments, as those of `Fn(A) -> B`. -/
def parenArgs (r : Rules) : Parser PathArgs := do
  let ((inputs, trailing), span) ← within .paren (terminated (r.ty true true))
  let output ← returnType r false
  return .paren span inputs trailing output

/-- Whether parenthesised arguments follow, perhaps behind a `::`. -/
def peekParenArgs : Peek := fun ts =>
  Peek.group .paren ts || (Peek.op "::" ts && Peek.third (Peek.group .paren) ts)

section

variable (angle : Parser PathArgs)

/-- One segment of a path, with a parser for arguments between angle brackets. -/
def segment (exprStyle : Bool) : Parser Segment := do
  if ← peek (fun ts => Peek.word "super" ts || Peek.word "self" ts || Peek.word "crate" ts ||
      Peek.word "try" ts) then
    return .mk (← anyWord) .none
  let i ← if ← peek (Peek.word "Self") then anyWord else name
  if ← peek (fun ts => (!exprStyle && Peek.op "<" ts && !Peek.op "<=" ts) ||
      (Peek.op "::" ts && Peek.third (Peek.op "<") ts)) then
    return .mk i (← angle)
  else return .mk i .none

/-- The segments that go on a path. -/
def moreSegments (exprStyle : Bool) : Parser (List Segment) :=
  loop do
    if ← peek (fun ts => Peek.op "::" ts && !Peek.third (Peek.group .paren) ts) then
      let _ ← op "::"
      return some (← segment angle exprStyle)
    else return none

/-- A path. -/
def pathWith (exprStyle : Bool) : Parser Path := do
  let leading ← leadingColons?
  let first ← segment angle exprStyle
  let more ← moreSegments angle exprStyle
  return .mk leading (first :: more)

/-- A trait as a bound. -/
def traitWith (r : Rules) (paren : Option Span) : Parser Bound := do
  let modifier ← if ← peek (Peek.op "?") then some <$> mark "?" else pure none
  let binder ← binder?
  let p ← pathWith angle false
  if (p.last?.map noArgs).getD false && (← peek peekParenArgs) then
    let _ ← op? "::"
    let args ← parenArgs r
    return .trait paren modifier binder (.mk p.leading (setLastArgs args p.segments))
  else return .trait paren modifier binder p

/-- A bound. -/
def boundWith (r : Rules) : Parser Bound := do
  if ← peek Peek.lifetime then return .lifetime (← lifetime)
  else if ← peek (Peek.group .paren) then
    let (b, span) ← within .paren (traitWith angle r none)
    match b with
    | .trait _ modifier binder p => return .trait (some span) modifier binder p
    | b => return b
  else traitWith angle r none

end

/-- What ends the bounds of a generic argument. -/
def endsArgBounds : Peek := Peek.or (Peek.op ",") (Peek.op ">")

/-- Whether a type is one name with arguments between angle brackets. -/
def isNameWithArgs : Ty → Bool
  | .path (.mk none [.mk _ (.angle ..)]) => true
  | _ => false

/-- An argument between angle brackets; `angle` reads those of the traits that constrain it. -/
def genericArg (r : Rules) (angle : Parser PathArgs) : Parser GenericArg := do
  if ← peek (fun ts => Peek.lifetime ts && !Peek.second (Peek.op "+") ts) then
    return .lifetime (← lifetime)
  if ← peek (fun ts => Peek.name ts && Peek.second (Peek.op "=") ts) then
    let i ← name
    let _ ← op "="
    let start ← get
    if ← peekLit then
      let _ ← lit
      return .binding i (.other .verbatim (← sinceParts start))
    else if ← peek (Peek.group .brace) then
      let _ ← blockExpr r
      return .binding i (.other .verbatim (← sinceParts start))
    else return .binding i (← r.ty true true)
  if ← peek (fun ts => Peek.name ts && Peek.second Peek.colon ts) then
    let i ← name
    let _ ← op ":"
    let (bounds, trailing) ← joined "+" endsArgBounds (boundWith angle r)
    return .constraint i bounds trailing
  if (← peekLit) || (← peek (Peek.group .brace)) then return .const (← constArg r)
  let start ← get
  let t ← r.ty true true
  if isNameWithArgs t then
    if ← peek (Peek.op "=") then
      let _ ← op "="
      let _ ← r.ty true true
      return .ty (.other .verbatim (← sinceParts start))
    else if ← peek (Peek.op ":") then
      let _ ← op ":"
      let _ ← joined "+" endsArgBounds (boundWith angle r)
      return .ty (.other .verbatim (← sinceParts start))
  return .ty t

/-- Arguments between angle brackets, up to a number of levels of traits within traits. -/
def angleArgsN (r : Rules) : Nat → Parser PathArgs
  | 0 => fail .tooDeep
  | n + 1 => do
    let colons ← op? "::"
    let lt ← mark "<"
    let (args, trailing) ← separated "," (peek (Peek.op ">")) (genericArg r (angleArgsN r n))
    let gt ← mark ">"
    return .angle colons.isSome lt gt args trailing

/-- Arguments between angle brackets. -/
def angleArgs (r : Rules) : Parser PathArgs := do
  angleArgsN r (Token.weightOf (← get).rest + 1)

/-- A path. -/
def path (r : Rules) (exprStyle : Bool) : Parser Path := pathWith (angleArgs r) exprStyle

/-- A bound. -/
def bound (r : Rules) : Parser Bound := boundWith (angleArgs r) r

/-- Bounds with `+` between them, at least one; only one if `plus` does not allow more. Answers
whether a `+` comes last. `n` bounds their number. -/
def boundsN (r : Rules) (plus : Bool) : Nat → Parser (List Bound × Bool)
  | 0 => fail .tooDeep
  | n + 1 => do
    let b ← bound r
    if plus && (← peek (Peek.op "+")) then
      let _ ← op "+"
      if ← peek peekBound then
        let (more, trailing) ← boundsN r plus n
        return (b :: more, trailing)
      else return ([b], true)
    else return ([b], false)

/-- Bounds with `+` between them. -/
def bounds (r : Rules) (plus : Bool) : Parser (List Bound × Bool) := do
  boundsN r plus (Token.weightOf (← get).rest + 1)

/-- How a path begins: by itself, or from a type. -/
inductive PathStart where
  | plain (leading : Option Span)
  | qualified (lt : List Token) (self : Ty) (trait : Option (Part × Path)) (gt colons : List Token)

/-- The pieces of a path that starts from a type. -/
def qualifiedParts (lt : List Token) (self : Ty) (trait : Option (Part × Path))
    (gt colons : List Token) (segments : List Segment) : List Part :=
  match trait with
  | some (word, p) =>
    lt.map .token ++ [.ty self, word, .path p] ++ gt.map .token ++ colons.map .token ++
      [.tail segments]
  | none =>
    lt.map .token ++ [.ty self] ++ gt.map .token ++
      [.path (.mk (some ((colons.head?.map Token.span).getD .callSite)) segments)]

/-- A path, perhaps one that starts from a type. -/
def anyPath (r : Rules) (exprStyle : Bool) : Parser (PathStart × List Segment) := do
  if ← peek (Peek.op "<") then
    let lt ← op "<"
    let self ← r.ty true true
    let trait ← if ← peek (Peek.word "as") then
        let word ← keywordPart "as"
        pure (some (word, ← path r false))
      else pure none
    let gt ← op ">"
    let colons ← op "::"
    let first ← segment (angleArgs r) exprStyle
    let more ← loop do
      if ← peek (Peek.op "::") then
        let _ ← op "::"
        return some (← segment (angleArgs r) exprStyle)
      else return none
    return (.qualified lt self trait gt colons, first :: more)
  else
    let p ← path r exprStyle
    return (.plain p.leading, p.segments)

/-! ## 3. Types -/

/-- Whether a parenthesised argument list leaves room for more segments. -/
def opensSegments : PathArgs → Bool
  | .paren _ _ _ none => true
  | .paren _ _ _ (some (.paren ..)) => true
  | _ => false

/-- A path as a type. -/
def typePath (r : Rules) : Parser (PathStart × List Segment) := do
  let (start, segments) ← anyPath r false
  let segments ← iterate (fun segs => do
    if (segs.getLast?.map noArgs).getD false && (← peek peekParenArgs) then
      let _ ← op? "::"
      let args ← parenArgs r
      let segs := setLastArgs args segs
      if opensSegments args then return some (segs ++ (← moreSegments (angleArgs r) false))
      else return some segs
    else return none) segments
  return (start, segments)

/-- Whether some bound is a trait. -/
def hasTrait (bs : List Bound) : Bool :=
  bs.any fun
    | .trait .. => true
    | .lifetime _ => false

/-- The place of the last lifetime among bounds. -/
def lastLifetime (bs : List Bound) : Span :=
  bs.foldl (fun s b => match b with
    | .lifetime l => l.name.span
    | _ => s) .callSite

/-- The bounds of an object type, of which one has to be a trait. -/
def objectBounds (r : Rules) (start : Span) (plus : Bool) : Parser (List Bound × Bool) := do
  let (bs, trailing) ← bounds r plus
  if hasTrait bs then return (bs, trailing)
  else
    fail (.rule (Span.upTo start (lastLifetime bs))
      "at least one trait is required for an object type")

/-- An object type without `dyn`. -/
def bareObject (r : Rules) (plus : Bool) : Parser Ty := do
  let start := spanAhead (← get)
  let word ← keyword? "dyn"
  let (bs, trailing) ← objectBounds r start plus
  return .traitObject word bs trailing

/-- The calling convention of a function, if it is next. -/
def abi? : Parser (Option Abi) := do
  if ← peek (Peek.word "extern") then
    let word ← keyword "extern"
    if ← peekStr then
      match ← lit with
      | .lit _ t _ => return some ⟨word, some t⟩
      | _ => return some ⟨word, none⟩
    else return some ⟨word, none⟩
  else return none

/-- The pieces of a calling convention. -/
def abiParts (a : Option Abi) : List Part :=
  match a with
  | some a => a.parts
  | none => []

/-- A parameter of a function type: its pieces, or nothing for `mut self`, which makes the whole
type stay as it was read. -/
def bareFnArg (r : Rules) : Parser (Option (List Part)) := do
  let attrs ← outerAttributes
  let named ← peek fun ts =>
    (Peek.name ts || Peek.word "_" ts || Peek.word "self" ts) && Peek.second Peek.colon ts
  let mutNamed ← peek fun ts =>
    Peek.word "mut" ts && Peek.second (Peek.word "self") ts && Peek.third Peek.colon ts
  let mutSelf ← peek fun ts => Peek.word "mut" ts && Peek.second (Peek.word "self") ts
  if mutNamed then
    let _ ← anyWord
    let _ ← anyWord
    let _ ← op ":"
    let _ ← r.ty true true
    return none
  if mutSelf then
    let _ ← anyWord
    let _ ← anyWord
    return none
  let nameParts ← if named then
      let i ← anyWord
      pure (.token (.ident i) :: (← opParts ":"))
    else pure []
  let tyParts ← if ← peek (Peek.op "...") then opParts "..." else pure [.ty (← r.ty true true)]
  return some (outerParts attrs ++ nameParts ++ tyParts)

/-- A function type behind its `for<..>`; `start` is where the type begins. -/
def bareFn (r : Rules) (start : Cursor) (lifetimes : Option Binder) : Parser Ty := do
  let unsafety ← keywordParts? "unsafe"
  let abi ← abi?
  let word ← keywordPart "fn"
  let (args, span) ← within .paren (loop do
    if ← peek Peek.atEnd then return none
    let dots ← succeeds (do let _ ← outerAttributes; op "...")
    if dots then
      let attrs ← outerAttributes
      let last ← opParts "..."
      if ← peek Peek.atEnd then return some (some (outerParts attrs ++ last))
      else fail (.leftover (spanAhead (← get)))
    let arg ← bareFnArg r
    if ← peek Peek.atEnd then return some arg
    let comma ← opParts ","
    return some (arg.map (· ++ comma)))
  let output ← returnType r false
  if args.any Option.isNone then return .other .verbatim (← sinceParts start)
  else
    return .other .function
      (binderParts lifetimes ++ unsafety ++ abiParts abi ++ [word] ++
        [.group .paren span (args.flatMap (·.getD []))] ++
        match output with
        | some t => Part.operator "->" ++ [.ty t]
        | none => [])

/-- Further bounds behind a first one. -/
def moreBounds (r : Rules) (first : Bound) : Parser Ty := do
  let more ← loop do
    if ← peek (Peek.op "+") then
      let _ ← op "+"
      return some (← bound r)
    else return none
  return .traitObject none (first :: more) false

/-- A parenthesised bound, if the type between parentheses can be read as one. -/
def parenthesisedBound (span : Span) : Ty → Option Bound
  | .path p => some (.trait (some span) none none p)
  | .traitObject none [.trait _ modifier binder p] false =>
    some (.trait (some span) modifier binder p)
  | .traitObject none [.lifetime l] false => some (.lifetime l)
  | _ => none

/-- What a pair of parentheses holds. -/
inductive ParenContent where
  | object (t : Ty)
  | optional (b : Bound)
  | single (t : Ty)
  | tuple (ts : List Ty) (trailing : Bool)

/-- A type that starts with a parenthesis. -/
def parenTy (r : Rules) (plus : Bool) : Parser Ty := do
  let (content, span) ← within .paren (do
    if ← peek Peek.atEnd then return ParenContent.tuple [] false
    if ← peek Peek.lifetime then return .object (← bareObject r true)
    if ← peek (Peek.op "?") then return .optional (← traitWith (angleArgs r) r none)
    let first ← r.ty true true
    if ← peek (Peek.op ",") then
      let _ ← op ","
      let (more, trailing) ← terminated (r.ty true true)
      return .tuple (first :: more) (more.isEmpty || trailing)
    else return .single first)
  match content with
  | .object t => return .paren span t
  | .tuple ts trailing => return .tuple span ts trailing
  | .optional b =>
    match b with
    | .trait _ modifier binder p => moreBounds r (.trait (some span) modifier binder p)
    | b => moreBounds r b
  | .single t =>
    if plus && (← peek (Peek.op "+")) then
      match parenthesisedBound span t with
      | some b => moreBounds r b
      | none => return .paren span t
    else return .paren span t

/-- Bounds behind the first trait of an object type that has no `dyn`. Answers whether a `+` comes
last; `n` bounds their number. -/
def plusBoundsN (r : Rules) : Nat → Parser (List Bound × Bool)
  | 0 => fail .tooDeep
  | n + 1 => do
    if ← peek (Peek.op "+") then
      let _ ← op "+"
      if ← peek (fun ts => Peek.anyWord ts || Peek.op "::" ts || Peek.op "?" ts ||
          Peek.lifetime ts || Peek.group .paren ts) then
        let b ← bound r
        let (more, trailing) ← plusBoundsN r n
        return (b :: more, trailing)
      else return ([], true)
    else return ([], false)

/-- A type that starts with a path. -/
def pathTy (r : Rules) (start : Cursor) (lifetimes : Option Binder) (plus : Bool) : Parser Ty := do
  if ← peek (Peek.word "dyn") then
    let word ← keyword "dyn"
    let star ← op? "*"
    let (bs, trailing) ← objectBounds r word plus
    if star.isSome then return .other .verbatim (← sinceParts start)
    else return .traitObject (some word) bs trailing
  let (begin_, segments) ← typePath r
  match begin_ with
  | .qualified lt self trait gt colons =>
    return .other .qualified (qualifiedParts lt self trait gt colons segments)
  | .plain leading =>
    let p : Path := .mk leading segments
    if p.plain && (← peek peekBang) then
      return .other .call [.call (← macroCall p.names)]
    if lifetimes.isSome || (plus && (← peek (Peek.op "+"))) then
      let (more, trailing) ← if plus then plusBoundsN r (Token.weightOf (← get).rest + 1)
        else pure ([], false)
      return .traitObject none (.trait none none lifetimes p :: more) trailing
    return .path p

/-- A type between square brackets. -/
def bracketTy (r : Rules) : Parser Ty := do
  let ((form, parts), span) ← within .bracket (do
    let elem ← r.ty true true
    if ← peek (Peek.op ";") then
      let semi ← opParts ";"
      return (TyForm.array, [Part.ty elem] ++ semi ++ [.expr (← r.expr true)])
    else return (TyForm.slice, [.ty elem]))
  return .other form [.group .bracket span parts]

/-- An invisible group as a type; a path inside it may go on behind it. -/
def groupTy (r : Rules) (generics : Bool) : Parser Ty := do
  let (inner, span) ← within .invisible (r.ty true true)
  if ← peek (fun ts => Peek.op "::" ts && Peek.third Peek.anyWord ts) then
    match inner with
    | .path p =>
      return .path (.mk p.leading (p.segments ++ (← moreSegments (angleArgs r) false)))
    | inner =>
      let p ← path r false
      return .other .qualified
        ([.token (.punct '<' .alone span), .ty inner, .token (.punct '>' .alone span), .path p])
  else if ← peek (fun ts => (generics && Peek.op "<" ts) ||
      (Peek.op "::" ts && Peek.third (Peek.op "<") ts)) then
    match inner with
    | .path p =>
      match p.segments.getLast? with
      | some (.mk _ .none) =>
        let args ← angleArgs r
        let more ← moreSegments (angleArgs r) false
        return .path (.mk p.leading (setLastArgs args p.segments ++ more))
      | _ => return .group span inner
    | inner => return .group span inner
  else return .group span inner

/-- What was looked for where a type should start. -/
def tyStarts : List Expectation :=
  [.symbol "for", .kind "parentheses", .symbol "fn", .symbol "unsafe", .symbol "extern",
    .kind "identifier", .symbol "::", .symbol "<", .kind "square brackets", .symbol "*",
    .symbol "&", .symbol "!", .symbol "impl", .symbol "_", .kind "lifetime"]

/-- What may follow the `for<..>` of a type. -/
def binderFollowers : List Expectation :=
  [.kind "identifier", .symbol "fn", .symbol "unsafe", .symbol "extern", .symbol "super",
    .symbol "self", .symbol "Self", .symbol "crate"]

/-- A type. -/
def ty (r : Rules) (plus generics : Bool) : Parser Ty := do
  let start ← get
  if ← peek (Peek.group .invisible) then return ← groupTy r generics
  let lifetimes ← binder?
  if lifetimes.isSome then
    let fits ← peek fun ts => Peek.name ts || Peek.word "fn" ts || Peek.word "unsafe" ts ||
      Peek.word "extern" ts || Peek.pathWord ts
    if !fits || (← peek (Peek.word "dyn")) then return ← expected binderFollowers
  if ← peek (Peek.group .paren) then parenTy r plus
  else if ← peek fun ts => Peek.word "fn" ts || Peek.word "unsafe" ts || Peek.word "extern" ts then
    bareFn r start lifetimes
  else if ← peek (fun ts => peekSegment ts || Peek.op "::" ts || Peek.op "<" ts) then
    pathTy r start lifetimes plus
  else if ← peek (Peek.group .bracket) then bracketTy r
  else if ← peek (Peek.op "*") then
    let star ← opParts "*"
    let word ← if ← peek (Peek.word "const") then keywordPart "const"
      else if ← peek (Peek.word "mut") then keywordPart "mut"
      else expected [.symbol "const", .symbol "mut"]
    return .other .pointer (star ++ [word, .ty (← r.ty false true)])
  else if ← peek (Peek.op "&") then
    let amp ← mark "&"
    let l ← lifetime?
    let mutable ← keyword? "mut"
    return .reference amp l mutable (← r.ty false true)
  else if ← peek (fun ts => Peek.op "!" ts && !Peek.op "=" ts) then
    return .other .never (← opParts "!")
  else if ← peek (Peek.word "impl") then
    let word ← keyword "impl"
    let (bs, trailing) ← bounds r plus
    if hasTrait bs then return .implTrait word bs trailing
    else fail (.rule (Span.upTo word (lastLifetime bs)) "at least one trait must be specified")
  else if ← peek (Peek.word "_") then return .other .infer [← keywordPart "_"]
  else if ← peek Peek.lifetime then bareObject r true
  else expected tyStarts

/-! ## 4. Generics -/

/-- A type parameter behind its attributes. -/
def typeParam (r : Rules) (attrs : List Attribute) : Parser TypeParam := do
  let i ← name
  let (bs, trailing) ← if ← peek (Peek.op ":") then
      let _ ← op ":"
      joined "+" (fun ts => Peek.op "," ts || Peek.op ">" ts || Peek.op "=" ts) (bound r)
    else pure ([], false)
  let default ← if ← peek (Peek.op "=") then
      let _ ← op "="
      some <$> r.ty true true
    else pure none
  return ⟨attrs, i, bs, trailing, default⟩

/-- A constant parameter behind its attributes. -/
def constParam (r : Rules) (attrs : List Attribute) : Parser ConstParam := do
  let word ← keyword "const"
  let i ← name
  let _ ← op ":"
  let t ← r.ty true true
  let default ← if ← peek (Peek.op "=") then
      let _ ← op "="
      some <$> constArg r
    else pure none
  return ⟨attrs, word, i, t, default⟩

/-- A generic parameter. -/
def genericParam (r : Rules) : Parser GenericParam := do
  let attrs ← outerAttributes
  if ← peek Peek.lifetime then
    let p ← lifetimeParam
    return .lifetime { p with attrs := attrs }
  else if ← peek Peek.name then return .type (← typeParam r attrs)
  else if ← peek (Peek.word "const") then return .const (← constParam r attrs)
  else if ← peek (Peek.word "_") then return .type ⟨attrs, ← anyWord, [], false, none⟩
  else expected [.kind "lifetime", .kind "identifier", .symbol "const"]

/-- The parameters of a declaration, without its `where` clause. -/
def generics (r : Rules) : Parser Generics := do
  if ← peek (Peek.op "<") then
    let _ ← op "<"
    let (params, trailing) ← separated "," (peek (Peek.op ">")) (genericParam r)
    let _ ← op ">"
    return ⟨params, trailing, none⟩
  else return .empty

/-- What ends a condition of a `where` clause. -/
def endsPredicate : Peek := fun ts =>
  Peek.atEnd ts || Peek.group .brace ts || Peek.op "," ts || Peek.op ";" ts || Peek.colon ts ||
    Peek.op "=" ts

/-- A condition of a `where` clause. -/
def wherePredicate (r : Rules) : Parser WherePredicate := do
  if ← peek (fun ts => Peek.lifetime ts && Peek.second (Peek.op ":") ts) then
    let l ← lifetime
    let _ ← op ":"
    let (bs, trailing) ← joined "+" (fun ts => endsPredicate ts || Peek.op ":" ts) lifetime
    return .lifetime l bs trailing
  else
    let binder ← binder?
    let bounded ← r.ty true true
    let _ ← op ":"
    let (bs, trailing) ← joined "+" endsPredicate (bound r)
    return .type binder bounded bs trailing

/-- A `where` clause, if it is next. -/
def whereClause? (r : Rules) : Parser (Option WhereClause) := do
  if ← peek (Peek.word "where") then
    let word ← keyword "where"
    let (predicates, trailing) ← joined "," endsPredicate (wherePredicate r)
    return some ⟨word, predicates, trailing⟩
  else return none

end Graft.Grammar
