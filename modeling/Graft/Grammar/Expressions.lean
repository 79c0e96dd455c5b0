import Graft.Grammar.Patterns

/-!
# Expressions

* `atom`: an expression that starts with its own first token.
* `trailers`: calls, fields, indices and `?` behind an expression.
* `unary`: an expression with prefix operators in front.
* `climb`: binary operators by precedence; assignment groups to the right and ranges do not chain.
* `early`: an expression in the place of a statement, where a block-like one ends by itself.
-/

namespace Graft.Grammar

open Graft.Parser

/-! ## 1. Operators -/

/-- How tightly operators bind. -/
def precAny : Nat := 0
/-- Assignments. -/
def precAssign : Nat := 1
/-- Ranges. -/
def precRange : Nat := 2
/-- Casts and ascriptions. -/
def precCast : Nat := 12

/-- The binary operators with their precedences; a longer one comes before its beginnings. -/
def binaryOps : List (String × Nat) :=
  [("+=", 1), ("-=", 1), ("*=", 1), ("/=", 1), ("%=", 1), ("^=", 1), ("&=", 1), ("|=", 1),
    ("<<=", 1), (">>=", 1), ("&&", 4), ("||", 3), ("<<", 9), (">>", 9), ("==", 5), ("<=", 5),
    ("!=", 5), (">=", 5), ("+", 10), ("-", 10), ("*", 11), ("/", 11), ("%", 11), ("^", 7),
    ("&", 8), ("|", 6), ("<", 5), (">", 5)]

/-- The binary operator ahead. -/
def binaryOp? (ts : List Token) : Option (String × Nat) :=
  binaryOps.find? fun (text, _) => Peek.op text ts

/-- The precedence of what follows an expression. -/
def nextPrec (ts : List Token) : Nat :=
  match binaryOp? ts with
  | some (_, p) => p
  | none =>
    if Peek.op "=" ts && !Peek.op "=>" ts then precAssign
    else if Peek.op ".." ts then precRange
    else if Peek.word "as" ts || Peek.colon ts then precCast
    else precAny

/-- Whether an expression in the place of a statement needs something behind it to end it. -/
def needsEnd : Expr → Bool
  | .other _ form _ =>
    match form with
    | .unsafeBlock | .block | .conditional | .matching | .whileLoop | .looping | .forLoop
    | .asyncBlock | .tryBlock => false
    | _ => true
  | _ => true

/-- Further attributes in front of an expression. One that is kept as it was read has no place for
them. -/
def addAttrs (attrs : List Attribute) (e : Expr) : Expr :=
  match e with
  | .other _ .verbatim _ => e
  | e => e.withAttrs (attrs ++ e.attrs)

/-! ## 2. Pieces of expressions -/

/-- An attribute in front of an expression, perhaps inside an invisible group of its own. -/
def exprAttributes : Parser (List Attribute) :=
  loop do
    if ← peek (Peek.group .invisible) then
      match (← get).rest with
      | .group _ inner _ :: _ =>
        if Peek.op "#" inner && !Peek.second (Peek.op "!") inner then
          let found ← ahead (within .invisible (do
            let a ← outerAttribute
            return (a, ← peek Peek.atEnd)))
          match found with
          | .ok (((a, true), _), c) =>
            set c
            return some a
          | .ok _ => return none
          | .error e => fail e
        else return none
      | _ => return none
    else if ← peek (Peek.op "#") then return some (← outerAttribute)
    else return none

/-- Expressions divided by commas, between delimiters. -/
def exprGroup (r : Rules) (d : Delimiter) : Parser Part :=
  groupPart d do
    let (es, trailing) ← terminated (r.expr true)
    return Part.punctuated "," trailing (es.map fun e => [.expr e])

/-- The arguments of a method between `::<` and `>`. -/
def turbofish (r : Rules) : Parser (List Part) := do
  let colons ← opParts "::"
  let lt ← opParts "<"
  let (args, trailing) ← separated "," (peek (Peek.op ">")) (do
    if ← peekLit then return Part.expr (← lit)
    else if ← peek (Peek.group .brace) then return .expr (← blockExpr r)
    else return .ty (← r.ty true true))
  let gt ← opParts ">"
  return colons ++ lt ++ Part.punctuated "," trailing (args.map fun a => [a]) ++ gt

/-- The pieces of a text between its points. -/
def splitPoints : List Char → List (List Char)
  | [] => [[]]
  | c :: rest =>
    match splitPoints rest with
    | piece :: more => if c == '.' then [] :: piece :: more else (c :: piece) :: more
    | [] => [[c]]

/-- The numbers that a fraction such as `0.1` spells when it follows a point, as fields of fields;
nothing if some piece is no number. -/
def fieldIndices (text : String) (span : Span) : Except SyntaxError (List Token) :=
  let cs := text.toList
  let cs := if cs.getLast? == some '.' then cs.dropLast else cs
  (splitPoints cs).mapM fun piece =>
    match Lit.read? (String.ofList piece) with
    | some (.int digits "") => .ok (.literal digits span)
    | some (.int _ _) => .error (.rule span "expected unsuffixed integer")
    | _ => .error (.rule span "expected integer literal")

/-! ## 3. Trailers -/

/-- A member behind a point. -/
def memberTrailer (r : Rules) (e : Expr) : Parser Expr := do
  let dot ← opParts "."
  if ← peek (Peek.word "await") then
    return .other [] .awaiting ([.expr e] ++ dot ++ [← keywordPart "await"])
  let (e, dot) ← match litAhead (← get).rest with
    | .token (.literal text s) (.float _ _) rest =>
      match fieldIndices text s with
      | .error err => fail err
      | .ok indices =>
        advance rest
        let fields := indices.foldl
          (fun (base, dot) i => (.other [] .field ([.expr base] ++ dot ++ [.token i]),
            [Part.token (.punct '.' .alone s)])) (e, dot)
        if text.toList.getLast? == some '.' then pure fields
        else return fields.1
    | .unknown text => fail (.unknownLiteral text)
    | _ => pure (e, dot)
  let (m, named) ← member
  let args ← if named && (← peek (Peek.op "::")) then turbofish r else pure []
  if !args.isEmpty || (named && (← peek (Peek.group .paren))) then
    let call ← exprGroup r .paren
    return .other [] .methodCall ([.expr e] ++ dot ++ [m] ++ args ++ [call])
  else return .other [] .field ([.expr e] ++ dot ++ [m])

/-- Whether an expression is a range. -/
def isRange : Expr → Bool
  | .other _ .range _ => true
  | _ => false

/-- Calls, members, indices and `?` behind an expression. -/
def trailers (r : Rules) : Expr → Parser Expr :=
  iterate fun e => do
    if ← peek (Peek.group .paren) then
      return some (.other [] .call [.expr e, ← exprGroup r .paren])
    else if (← peek (fun ts => Peek.op "." ts && !Peek.op ".." ts)) && !isRange e then
      return some (← memberTrailer r e)
    else if ← peek (Peek.group .bracket) then
      let index ← groupPart .bracket (do return [.expr (← r.expr true)])
      return some (.other [] .index [.expr e, index])
    else if ← peek (Peek.op "?") then
      return some (.other [] .trying (.expr e :: (← opParts "?")))
    else return none

/-! ## 4. Block-like expressions -/

/-- A condition and a body, perhaps with an alternative; `n` bounds the number of `else if`. -/
def conditionalN (r : Rules) : Nat → Parser Expr
  | 0 => fail .tooDeep
  | n + 1 => do
    let attrs ← outerAttributes
    let word ← keywordPart "if"
    let cond ← r.expr false
    let then_ ← body r false
    let parts := [word, .expr cond, then_]
    if ← peek (Peek.word "else") then
      let elseWord ← keywordPart "else"
      if ← peek (Peek.word "if") then
        return .other attrs .conditional (parts ++ [elseWord, .expr (← conditionalN r n)])
      else if ← peek (Peek.group .brace) then
        return .other attrs .conditional (parts ++ [elseWord, ← body r false])
      else expected []
    else return .other attrs .conditional parts

/-- An `if` expression. -/
def conditional (r : Rules) : Parser Expr := do
  conditionalN r (Token.weightOf (← get).rest + 1)

/-- A `while` loop. -/
def whileLoop (r : Rules) : Parser Expr := do
  let label ← label?
  let word ← keywordPart "while"
  let cond ← r.expr false
  return .other [] .whileLoop (label ++ [word, .expr cond, ← body r true])

/-- A `for` loop. -/
def forLoop (r : Rules) : Parser Expr := do
  let label ← label?
  let word ← keywordPart "for"
  let pat ← alternatives r true
  let inWord ← keywordPart "in"
  let subject ← r.expr false
  return .other [] .forLoop (label ++ [word] ++ pat.parts ++ [inWord, .expr subject, ← body r true])

/-- A loop without a condition. -/
def looping (r : Rules) : Parser Expr := do
  let label ← label?
  let word ← keywordPart "loop"
  return .other [] .looping (label ++ [word, ← body r true])

/-- One arm of a `match`. -/
def arm (r : Rules) : Parser (List Part) := do
  let attrs ← outerAttributes
  let pat ← alternatives r true
  let guard ← if ← peek (Peek.word "if") then
      let word ← keywordPart "if"
      pure [word, .expr (← r.expr true)]
    else pure []
  let arrow ← opParts "=>"
  let value ← r.early
  let comma ← if needsEnd value && !(← peek Peek.atEnd) then opParts ","
    else if ← peek (Peek.op ",") then opParts ","
    else pure []
  return outerParts attrs ++ pat.parts ++ guard ++ arrow ++ [.expr value] ++ comma

/-- A `match` expression. -/
def matching (r : Rules) : Parser Expr := do
  let word ← keywordPart "match"
  let subject ← r.expr false
  let arms ← groupPart .brace do
    let attrs ← innerAttributes
    let arms ← loop do if ← peek Peek.atEnd then return none else return some (← arm r)
    return attrs.map .attr ++ arms.flatten
  return .other [] .matching [word, .expr subject, arms]

/-- A keyword and a block. -/
def wordBlock (r : Rules) (form : ExprForm) (word : String) (inner : Bool) : Parser Expr := do
  let w ← keywordPart word
  return .other [] form [w, ← body r inner]

/-- A constant block. -/
def constExpr (r : Rules) : Parser Expr := do return .other [] .verbatim (← constBlock r)

/-! ## 5. Atoms -/

/-- A parameter of a closure. -/
def closureArg (r : Rules) : Parser (List Part) := do
  let attrs ← outerAttributes
  let pat ← r.pat
  if ← peek (Peek.op ":") then
    let colon ← opParts ":"
    return outerParts attrs ++ pat.parts ++ colon ++ [.ty (← r.ty true true)]
  else return outerParts attrs ++ pat.parts

/-- A closure. -/
def closure (r : Rules) (structs : Bool) : Parser Expr := do
  let static ← keywordParts? "static"
  let async ← keywordParts? "async"
  let capture ← keywordParts? "move"
  let or1 ← opParts "|"
  let (args, trailing) ← separated "," (peek (Peek.op "|")) (closureArg r)
  let or2 ← opParts "|"
  let head := static ++ async ++ capture ++ or1 ++ Part.punctuated "," trailing args ++ or2
  if ← peek (Peek.op "->") then
    let arrow ← opParts "->"
    let t ← r.ty true true
    return .other [] .closure (head ++ arrow ++ [.ty t, ← body r false])
  else return .other [] .closure (head ++ [.expr (← r.expr structs)])

/-- A field of a struct literal. -/
def fieldValue (r : Rules) : Parser (List Part) := do
  let attrs ← outerAttributes
  let (m, named) ← member
  if (← peek (Peek.op ":")) || !named then
    let colon ← opParts ":"
    return outerParts attrs ++ [m] ++ colon ++ [.expr (← r.expr true)]
  else
    match m with
    | .token (.ident i) => return outerParts attrs ++ [.path (.mk none [.mk i .none])]
    | m => return outerParts attrs ++ [m]

/-- The fields of a struct literal, between braces. -/
def fieldValues (r : Rules) : Parser Part :=
  groupPart .brace do
    let fields ← loop do
      if ← peek (Peek.or Peek.atEnd (Peek.op "..")) then return none
      let field ← fieldValue r
      let comma ← if ← peek Peek.atEnd then pure [] else opParts ","
      return some (field ++ comma)
    if ← peek Peek.atEnd then return fields.flatten
    let dots ← opParts ".."
    if ← peek Peek.atEnd then return fields.flatten ++ dots
    else return fields.flatten ++ dots ++ [.expr (← r.expr true)]

/-- A path, a macro invocation or a struct literal. -/
def pathExpr (r : Rules) (structs : Bool) : Parser Expr := do
  let start ← get
  let (begin_, segments) ← anyPath r true
  match begin_ with
  | .plain leading =>
    let p : Path := .mk leading segments
    if p.plain && (← peek peekBang) then return .call [] (← macroCall p.names)
    if structs && (← peek (Peek.group .brace)) then
      return .other [] .record [.path p, ← fieldValues r]
    else return .path [] p
  | .qualified lt self trait gt colons =>
    if structs && (← peek (Peek.group .brace)) then
      let _ ← fieldValues r
      return .other [] .verbatim (← sinceParts start)
    else return .other [] .qualified (qualifiedParts lt self trait gt colons segments)

/-- What parentheses or brackets hold: nothing, one expression, or several with commas. -/
inductive Contents where
  | none
  | one (e : Expr)
  | many (parts : List Part)

/-- Further expressions behind a first one, with commas. -/
def moreExprs (r : Rules) (first : Expr) : Parser (List Part) := do
  let more ← loop do
    if ← peek Peek.atEnd then return none
    let comma ← opParts ","
    if ← peek Peek.atEnd then return some comma
    else return some (comma ++ [.expr (← r.expr true)])
  return .expr first :: more.flatten

/-- A parenthesised expression or a tuple. -/
def parenExpr (r : Rules) : Parser Expr := do
  let (contents, span) ← within .paren (do
    if ← peek Peek.atEnd then return Contents.none
    let first ← r.expr true
    if ← peek Peek.atEnd then return .one first
    else return .many (← moreExprs r first))
  match contents with
  | .none => return .other [] .tuple [.group .paren span []]
  | .one e => return .paren [] span e
  | .many parts => return .other [] .tuple [.group .paren span parts]

/-- An array, listed or repeated. -/
def bracketExpr (r : Rules) : Parser Expr := do
  let ((form, parts), span) ← within .bracket (do
    if ← peek Peek.atEnd then return (ExprForm.array, [])
    let first ← r.expr true
    if ← peek (Peek.or Peek.atEnd (Peek.op ",")) then return (.array, ← moreExprs r first)
    else if ← peek (Peek.op ";") then
      let semi ← opParts ";"
      return (.repeated, [.expr first] ++ semi ++ [.expr (← r.expr true)])
    else expectedKind "`,` or `;`")
  return .other [] form [.group .bracket span parts]

/-- What ends an expression that may lack its operand. -/
def endsOperand : Peek := fun ts => Peek.atEnd ts || Peek.op "," ts || Peek.op ";" ts

/-- What ends a range that has no end. -/
def endsRange (structs : Bool) : Peek := fun ts =>
  endsOperand ts || (Peek.op "." ts && !Peek.op ".." ts) || (!structs && Peek.group .brace ts)

/-- A range that starts with its dots. -/
def prefixRange (r : Rules) (structs : Bool) : Parser Expr := do
  let (limits, halfOpen) ← rangeLimits
  if halfOpen && (← peek (endsRange structs)) then return .other [] .range limits
  else return .other [] .range (limits ++ [.expr (← r.expr structs)])

/-- An expression behind a label. -/
def labelled (r : Rules) : Parser Expr := do
  let l ← lifetime
  let colon ← op ":"
  let label := (l.tokens ++ colon).map Part.token
  let e ← if ← peek (Peek.word "while") then whileLoop r
    else if ← peek (Peek.word "for") then forLoop r
    else if ← peek (Peek.word "loop") then looping r
    else if ← peek (Peek.group .brace) then blockExpr r
    else expectedKind "loop or block expression"
  match e with
  | .other attrs form parts => return .other attrs form (label ++ parts)
  | e => return e

/-- Whether a `for` starts the lifetimes of a closure. -/
def peekClosureBinder : Peek := fun ts =>
  Peek.word "for" ts && Peek.second (Peek.op "<") ts &&
    (Peek.third Peek.lifetime ts || Peek.third (Peek.op ">") ts)

/-- Whether a closure is next. -/
def peekClosure : Peek := fun ts =>
  Peek.op "|" ts || (Peek.word "async" ts && (Peek.second (Peek.op "|") ts ||
      (Peek.second (Peek.word "move") ts && Peek.third (Peek.op "|") ts))) ||
    Peek.word "static" ts || Peek.word "move" ts

/-- Whether an `async` block is next. -/
def peekAsyncBlock : Peek := fun ts =>
  Peek.word "async" ts && (Peek.second (Peek.group .brace) ts ||
    (Peek.second (Peek.word "move") ts && Peek.third (Peek.group .brace) ts))

/-- Whether an invisible group is next that is read as one expression. -/
def peekGroupExpr : Peek := fun ts =>
  Peek.group .invisible ts && !Peek.second (Peek.op "::") ts && !Peek.second (Peek.op "!") ts &&
    !Peek.second (Peek.group .brace) ts

/-- An expression without anything in front of or behind it. -/
def atom (r : Rules) (structs : Bool) : Parser Expr := do
  if ← peek peekGroupExpr then
    let (e, span) ← within .invisible (r.expr true)
    return .group [] span e
  else if ← peekLit then lit
  else if ← peek peekAsyncBlock then
    let word ← keywordPart "async"
    let capture ← keywordParts? "move"
    return .other [] .asyncBlock ([word] ++ capture ++ [← body r false])
  else if ← peek (fun ts => Peek.word "try" ts && Peek.second (Peek.group .brace) ts) then
    wordBlock r .tryBlock "try" false
  else if ← peek peekClosure then closure r structs
  else if ← peek peekClosureBinder then
    let start ← get
    let _ ← binder?
    let _ ← closure r structs
    return .other [] .verbatim (← sinceParts start)
  else if ← peek (fun ts => peekSegment ts || Peek.op "::" ts || Peek.op "<" ts) then
    pathExpr r structs
  else if ← peek (Peek.group .paren) then parenExpr r
  else if ← peek (Peek.word "break") then
    let word ← keywordPart "break"
    let label ← if ← peek Peek.lifetime then pure ((← lifetime).tokens.map Part.token) else pure []
    if ← peek (fun ts => endsOperand ts || (!structs && Peek.group .brace ts)) then
      return .other [] .breaking ([word] ++ label)
    else return .other [] .breaking ([word] ++ label ++ [.expr (← r.expr structs)])
  else if ← peek (Peek.word "continue") then
    let word ← keywordPart "continue"
    let label ← if ← peek Peek.lifetime then pure ((← lifetime).tokens.map Part.token) else pure []
    return .other [] .continuing ([word] ++ label)
  else if ← peek (Peek.word "return") then
    let word ← keywordPart "return"
    if ← peek endsOperand then return .other [] .returning [word]
    else return .other [] .returning [word, .expr (← r.expr structs)]
  else if ← peek (Peek.group .bracket) then bracketExpr r
  else if ← peek (Peek.word "let") then
    let word ← keywordPart "let"
    let pat ← alternatives r true
    let eq ← opParts "="
    return .other [] .letBinding ([word] ++ pat.parts ++ eq ++ [.expr (← r.expr false)])
  else if ← peek (Peek.word "if") then conditional r
  else if ← peek (Peek.word "while") then whileLoop r
  else if ← peek (Peek.word "for") then forLoop r
  else if ← peek (Peek.word "loop") then looping r
  else if ← peek (Peek.word "match") then matching r
  else if ← peek (Peek.word "yield") then
    let word ← keywordPart "yield"
    if ← peek endsOperand then return .other [] .yielding [word]
    else return .other [] .yielding [word, .expr (← r.expr true)]
  else if ← peek (Peek.word "unsafe") then wordBlock r .unsafeBlock "unsafe" true
  else if ← peek (Peek.word "const") then constExpr r
  else if ← peek (Peek.group .brace) then blockExpr r
  else if ← peek (Peek.op "..") then prefixRange r structs
  else if ← peek (Peek.word "_") then return .other [] .verbatim [← keywordPart "_"]
  else if ← peek Peek.lifetime then labelled r
  else expectedKind "expression"

/-! ## 6. Prefix and binary operators -/

/-- An atom with what is behind it; `start` is where its attributes begin. -/
def trailed (r : Rules) (structs : Bool) (start : Cursor) (attrs : List Attribute) :
    Parser Expr := do
  let e ← trailers r (← atom r structs)
  match e with
  | .other _ .verbatim _ => return .other [] .verbatim (← sinceParts start)
  | e => return e.withAttrs (attrs ++ e.attrs)

/-- Whether `&` is followed by `raw mut` or `raw const`. -/
def peekRaw : Peek := fun ts =>
  Peek.word "raw" ts && (Peek.second (Peek.word "mut") ts || Peek.second (Peek.word "const") ts)

/-- An expression with prefix operators. -/
def unary (r : Rules) (structs : Bool) : Parser Expr := do
  let start ← get
  let attrs ← exprAttributes
  if ← peek (Peek.op "&") then
    let amp ← opParts "&"
    if ← peek peekRaw then
      let _ ← anyWord
      if (← keyword? "mut").isNone then
        let _ ← keyword "const"
      let _ ← r.unary structs
      return .other [] .verbatim (← sinceParts start)
    let mutable ← keywordParts? "mut"
    return .other attrs .reference (amp ++ mutable ++ [.expr (← r.unary structs)])
  else if ← peek (Peek.word "box") then
    let word ← keywordPart "box"
    return .other attrs .boxed [word, .expr (← r.unary structs)]
  else if ← peek (Peek.op "*") then
    let star ← opParts "*"
    return .other attrs .unary (star ++ [.expr (← r.unary structs)])
  else if ← peek (Peek.op "!") then
    let bang ← opParts "!"
    return .other attrs .unary (bang ++ [.expr (← r.unary structs)])
  else if ← peek (Peek.op "-") then
    let minus ← mark "-"
    return .neg attrs minus (← r.unary structs)
  else trailed r structs start attrs

/-- What cannot follow a cast, and how it is called. -/
def afterCast (ts : List Token) : Option String :=
  if Peek.op "." ts && !Peek.op ".." ts then
    if Peek.second (Peek.word "await") ts then some "`.await`"
    else if Peek.second Peek.name ts &&
        (Peek.third (Peek.group .paren) ts || Peek.third (Peek.op "::") ts) then
      some "a method call"
    else some "a field access"
  else if Peek.op "?" ts then some "`?`"
  else if Peek.group .bracket ts then some "indexing"
  else if Peek.group .paren ts then some "a function call"
  else none

/-- The right side of an operator: everything that binds as `stronger` says. -/
def rightSide (r : Rules) (structs : Bool) (stronger : Nat → Bool) : Parser Expr := do
  let first ← r.unary structs
  iterate (fun rhs => do
    let next := nextPrec (← get).rest
    if stronger next then return some (← r.climb structs next rhs) else return none) first

/-- A cast or ascription. -/
def castTo (r : Rules) (form : ExprForm) (lhs : Expr) (sign : List Part) : Parser Expr := do
  let t ← r.ty false false
  match afterCast (← get).rest with
  | some what => fail (.rule (spanAhead (← get)) ("casts cannot be followed by " ++ what))
  | none => return .other [] form ([.expr lhs] ++ sign ++ [.ty t])

/-- The binary operators of at least precedence `base` behind an expression. -/
def climb (r : Rules) (structs : Bool) (base : Nat) : Expr → Parser Expr :=
  iterate fun lhs => do
    let ts := (← get).rest
    let found := (binaryOp? ts).filter fun (_, p) => base ≤ p
    match found with
    | some (text, p) =>
      let sign ← opParts text
      let rhs ← rightSide r structs fun next => next > p || (next == p && p == precAssign)
      let form := if p == precAssign then ExprForm.assignment else .binary
      return some (.other [] form ([.expr lhs] ++ sign ++ [.expr rhs]))
    | none =>
      if base ≤ precAssign && Peek.op "=" ts && !Peek.op "==" ts && !Peek.op "=>" ts then
        let sign ← opParts "="
        let rhs ← rightSide r structs fun next => next ≥ precAssign
        return some (.other [] .assignment ([.expr lhs] ++ sign ++ [.expr rhs]))
      else if base ≤ precRange && Peek.op ".." ts then
        let (limits, halfOpen) ← rangeLimits
        if halfOpen && (← peek (endsRange structs)) then
          return some (.other [] .range (.expr lhs :: limits))
        else
          let rhs ← rightSide r structs fun next => next > precRange
          return some (.other [] .range ([.expr lhs] ++ limits ++ [.expr rhs]))
      else if base ≤ precCast && Peek.word "as" ts then
        return some (← castTo r .cast lhs [← keywordPart "as"])
      else if base ≤ precCast && Peek.colon ts then
        return some (← castTo r .ascription lhs (← opParts ":"))
      else return none

/-- An expression. -/
def expr (r : Rules) (structs : Bool) : Parser Expr := do
  let lhs ← r.unary structs
  climb r structs precAny lhs

/-- An expression in the place of a statement. -/
def early (r : Rules) : Parser Expr := do
  let attrs ← exprAttributes
  let block ← if ← peek (Peek.word "if") then some <$> conditional r
    else if ← peek (Peek.word "while") then some <$> whileLoop r
    else if ← peek (fun ts => Peek.word "for" ts && !peekClosureBinder ts) then some <$> forLoop r
    else if ← peek (Peek.word "loop") then some <$> looping r
    else if ← peek (Peek.word "match") then some <$> matching r
    else if ← peek (fun ts => Peek.word "try" ts && Peek.second (Peek.group .brace) ts) then
      some <$> wordBlock r .tryBlock "try" false
    else if ← peek (Peek.word "unsafe") then some <$> wordBlock r .unsafeBlock "unsafe" true
    else if ← peek (fun ts => Peek.word "const" ts && Peek.second (Peek.group .brace) ts) then
      some <$> constExpr r
    else if ← peek (Peek.group .brace) then some <$> blockExpr r
    else pure none
  match block with
  | none => climb r true precAny (addAttrs attrs (← r.unary true))
  | some e =>
    if ← peek (fun ts => (Peek.op "." ts && !Peek.op ".." ts) || Peek.op "?" ts) then
      climb r true precAny (addAttrs attrs (← trailers r e))
    else return addAttrs attrs e

end Graft.Grammar
