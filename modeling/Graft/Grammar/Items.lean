import Graft.Grammar.Statements

/-!
# Items

Declarations of functions, types, traits and the rest. The kinds that a transform looks into have
nodes of their own; the others are read by the same rules and keep their pieces. A declaration that
is readable but has no proper place, such as a function without a body, is kept as it was read.

* `visibility`, `signature`, `fields`: parts of declarations.
* `item`: an item. `fnItem` and `propertyDecl`: the two forms of a function on their own.
-/

namespace Graft.Grammar

open Graft.Parser

/-! ## 1. Visibility -/

/-- The parenthesis behind `pub`, if it restricts the visibility. -/
def restriction : Parser (Option (Option Span × NamePath)) := do
  if ← peek (fun ts => Peek.word "crate" ts || Peek.word "self" ts || Peek.word "super" ts) then
    let i ← anyWord
    if ← peek Peek.atEnd then return some (none, ⟨none, [i]⟩) else return none
  else if ← peek (Peek.word "in") then
    let inWord ← keyword "in"
    return some (some inWord, ← namePath)
  else return none

/-- A visibility; an empty invisible group counts as none. -/
def visibility : Parser Visibility := do
  match (← get).rest with
  | .group .invisible [] _ :: rest =>
    advance rest
    return .inherited
  | _ => pure ()
  if ← peek (Peek.word "pub") then
    let word ← keyword "pub"
    if ← peek (Peek.group .paren) then
      match ← ahead (within .paren restriction) with
      | .ok ((some (inWord, path), paren), c) =>
        set c
        return .restricted word paren inWord path
      | .ok _ => return .everyone word
      | .error e => fail e
    else return .everyone word
  else if ← peek (Peek.butNot (Peek.word "crate") (Peek.second (Peek.op "::"))) then
    return .unit (← keyword "crate")
  else return .inherited

/-- Whether a visibility is the one that nothing states. -/
def isInherited : Visibility → Bool
  | .inherited => true
  | _ => false

/-! ## 2. Functions -/

/-- A receiver behind its attributes. -/
def receiver : Parser Receiver := do
  let reference ← if ← peek (Peek.op "&") then
      let amp ← mark "&"
      pure (some (amp, ← lifetime?))
    else pure none
  let mutable ← keyword? "mut"
  let word ← keyword "self"
  return ⟨[], reference, mutable, word⟩

/-- The three dots that stand for further parameters. -/
def dots? : Parser (Option (List Part)) := do
  if ← peek (Peek.op "...") then some <$> opParts "..." else return none

/-- A parameter behind its attributes. -/
def fnArg (r : Rules) (attrs : List Attribute) : Parser FnArg := do
  match ← ahead receiver with
  | .ok (self, c) =>
    if !Peek.op ":" c.rest then
      set c
      return .receiver { self with attrs := attrs }
  | .error _ => pure ()
  if ← peek (fun ts => Peek.name ts && Peek.second (Peek.op "<") ts) then
    let span := match reveal (← get).rest with
      | .ident i :: _ => i.span
      | _ => .callSite
    return .typed attrs (.other [.token (.ident ⟨"_", span⟩)]) span (← r.ty true true)
  let pat ← alternatives r false
  let colon ← mark ":"
  match ← dots? with
  | some dots => return .typed attrs pat colon (.other .verbatim dots)
  | none => return .typed attrs pat colon (← r.ty true true)

/-- One more parameter, three dots included. -/
def fnArgOrDots (r : Rules) : Parser FnArg := do
  let attrs ← outerAttributes
  match ← op? "..." with
  | some dots => return .dots attrs ((dots.head?.map Token.span).getD .callSite)
  | none => fnArg r (attrs ++ (← outerAttributes))

/-- A receiver is the first parameter and the only one of its kind. -/
def checkReceiver (before : List FnArg) : FnArg → Parser Unit
  | .receiver self => do
    let isReceiver : FnArg → Bool
      | .receiver _ => true
      | _ => false
    if before.any isReceiver then fail (.rule self.word "unexpected second method receiver")
    else if !before.isEmpty then fail (.rule self.word "unexpected method receiver")
  | _ => return

/-- Parameters up to the end, and whether a comma comes last; `n` bounds their number. -/
def fnArgsN (r : Rules) (before : List FnArg) : Nat → Parser (List FnArg × Bool)
  | 0 => fail .tooDeep
  | n + 1 => do
    if ← peek Peek.atEnd then return (before, !before.isEmpty)
    let arg ← fnArgOrDots r
    checkReceiver before arg
    if ← peek Peek.atEnd then return (before ++ [arg], false)
    let _ ← op ","
    fnArgsN r (before ++ [arg]) n

/-- The parameters of a function; final dots without a comma are taken out. -/
def fnArgs (r : Rules) :
    Parser (List FnArg × Bool × Option (List Attribute × Span)) := do
  let (args, trailing) ← fnArgsN r [] (Token.weightOf (← get).rest + 2)
  match args.getLast?, trailing with
  | some (.dots attrs span), false => return (args.dropLast, args.length > 1, some (attrs, span))
  | _, _ => return (args, trailing, none)

/-- The signature of a function. -/
def signature (r : Rules) : Parser Signature := do
  let constant ← keyword? "const"
  let async ← keyword? "async"
  let unsafety ← keyword? "unsafe"
  let abi ← abi?
  let word ← keyword "fn"
  let ident ← name
  let params ← generics r
  let ((inputs, trailing, variadic), paren) ← within .paren (fnArgs r)
  let output ← returnType r true
  let clause ← whereClause? r
  return { constant, async, unsafety, abi, word, ident
           generics := { params with clause := clause }
           paren, inputs, trailing, variadic, output }

/-- Whether a signature is next: `fn` behind any of its modifiers. -/
def peekSignature : Parser Bool :=
  succeeds do
    let _ ← keyword? "const"
    let _ ← keyword? "async"
    let _ ← keyword? "unsafe"
    let _ ← abi?
    keyword "fn"

/-- The body of a function: the attributes inside it, and its statements. -/
def fnBody (r : Rules) : Parser (List Attribute × Block) := do
  let ((attrs, stmts), span) ← within .brace (do
    let attrs ← innerAttributes
    return (attrs, ← r.stmts))
  return (attrs, ⟨span, stmts⟩)

/-- The pieces of a function's body. -/
def bodyParts (attrs : List Attribute) (b : Block) : List Part :=
  [.group .brace b.span (attrs.map .attr ++ b.stmts)]

/-- A function with a body. -/
def fnItem (r : Rules) : Parser FnItem := do
  let outer ← outerAttributes
  let vis ← visibility
  let sig ← signature r
  let (inner, body) ← fnBody r
  return ⟨outer ++ inner, vis, sig, body⟩

/-- A property: a signature with a block or a semicolon behind it. -/
def propertyDecl (r : Rules) : Parser PropertyDecl := do
  let attrs ← outerAttributes
  let vis ← visibility
  let sig ← signature r
  if ← peek (Peek.group .brace) then
    let (stmts, span) ← within .brace r.stmts
    return ⟨attrs, vis, sig, some ⟨span, stmts⟩⟩
  else
    let _ ← op ";"
    return ⟨attrs, vis, sig, none⟩

/-! ## 3. Types -/

/-- Fields up to the end, read one by one. -/
def fieldList (field : Parser Field) : Parser (List Field × Bool) := terminated field

/-- The type of a nameless field that is written as a struct or union on the spot; it is kept as it
was read. `named` reads the fields. -/
def inlineRecord (named : Parser (List Field × Bool)) : Parser Ty := do
  let start ← get
  let _ ← anyWord
  let _ ← within .brace named
  return .other .verbatim (← sinceParts start)

/-- A field with a name, up to a number of levels of records within records. -/
def namedFieldN (r : Rules) : Nat → Parser Field
  | 0 => fail .tooDeep
  | n + 1 => do
    let attrs ← outerAttributes
    let vis ← visibility
    let nameless ← peek (Peek.word "_")
    let ident ← if nameless then anyWord else name
    let _ ← op ":"
    let record ← peek fun ts =>
      Peek.word "struct" ts || (Peek.word "union" ts && Peek.second (Peek.group .brace) ts)
    let t ← if nameless && record then inlineRecord (fieldList (namedFieldN r n))
      else r.ty true true
    return ⟨attrs, vis, some ident, t⟩

/-- A field with a name. -/
def namedField (r : Rules) : Parser Field := do
  namedFieldN r (Token.weightOf (← get).rest + 1)

/-- A field without a name. -/
def unnamedField (r : Rules) : Parser Field := do
  let attrs ← outerAttributes
  let vis ← visibility
  return ⟨attrs, vis, none, ← r.ty true true⟩

/-- Fields between braces. -/
def namedFields (r : Rules) : Parser Fields := do
  let ((fields, trailing), span) ← within .brace (fieldList (namedField r))
  return .named span fields trailing

/-- Fields between parentheses. -/
def unnamedFields (r : Rules) : Parser Fields := do
  let ((fields, trailing), span) ← within .paren (fieldList (unnamedField r))
  return .unnamed span fields trailing

/-- The beginning of a type's declaration. -/
def typeHead (r : Rules) (keyword_ : String) : Parser TypeHead := do
  let vis ← visibility
  let word ← keyword keyword_
  let ident ← name
  let params ← generics r
  return ⟨[], vis, word, ident, params⟩

/-- A beginning with the `where` clause that was found further on. -/
def withClause (head : TypeHead) (clause : Option WhereClause) : TypeHead :=
  { head with generics := { head.generics with clause := clause } }

/-- The declaration of a struct. -/
def structItem (r : Rules) : Parser Item := do
  let head ← typeHead r "struct"
  let clause ← whereClause? r
  if clause.isNone && (← peek (Peek.group .paren)) then
    let fields ← unnamedFields r
    let clause ← whereClause? r
    if ← peek (Peek.op ";") then
      let _ ← op ";"
      return .struct (withClause head clause) fields
    else if clause.isNone then expected [.symbol "where", .symbol ";"]
    else expected [.symbol ";"]
  else if ← peek (Peek.group .brace) then
    return .struct (withClause head clause) (← namedFields r)
  else if ← peek (Peek.op ";") then
    let _ ← op ";"
    return .struct (withClause head clause) .unit
  else if clause.isNone then
    expected [.symbol "where", .kind "parentheses", .kind "curly braces", .symbol ";"]
  else expected [.kind "curly braces", .symbol ";"]

/-- A variant of an enum; a visibility in front of it is dropped. -/
def variant (r : Rules) : Parser Variant := do
  let attrs ← outerAttributes
  let _ ← visibility
  let ident ← name
  let fields ← if ← peek (Peek.group .brace) then namedFields r
    else if ← peek (Peek.group .paren) then unnamedFields r
    else pure .unit
  let value ← if ← peek (Peek.op "=") then
      let _ ← op "="
      some <$> r.expr true
    else pure none
  return ⟨attrs, ident, fields, value⟩

/-- The declaration of an enum. -/
def enumItem (r : Rules) : Parser Item := do
  let head ← typeHead r "enum"
  let clause ← whereClause? r
  let ((variants, trailing), span) ← within .brace (terminated (variant r))
  return .enum (withClause head clause) span variants trailing

/-- The declaration of a union. -/
def unionItem (r : Rules) : Parser Item := do
  let head ← typeHead r "union"
  let clause ← whereClause? r
  let ((fields, trailing), span) ← within .brace (fieldList (namedField r))
  return .union (withClause head clause) span fields trailing

/-! ## 4. Other items -/

/-- What was read so far as an item of its own. -/
def keptSince (start : Cursor) : Parser Item := do return .verbatim (← since start)

/-- A name, or `_`. -/
def nameOrBlank : Parser Ident := do
  if ← peek (Peek.or Peek.name (Peek.word "_")) then anyWord
  else expected [.kind "identifier", .symbol "_"]

/-- The new name behind `as`. -/
def renamed : Parser (List Part) := do
  let word ← keywordPart "as"
  if ← peek (Peek.or Peek.name (Peek.word "_")) then return [word, .token (.ident (← anyWord))]
  else expectedKind "identifier or underscore"

/-- A tree of imported names, or nothing where a `::` begins one of several; such a tree is kept as
it was read. `root` allows that `::`. `n` bounds the depth. -/
def useTreeN : Nat → (root : Bool) → Parser (Option (List Part))
  | 0, _ => fail .tooDeep
  | n + 1, root => do
    if ← peek (fun ts => Peek.name ts || Peek.word "self" ts || Peek.word "super" ts ||
        Peek.word "crate" ts) then
      let i ← anyWord
      let head := Part.token (.ident i)
      if ← peek (Peek.op "::") then
        let colons ← opParts "::"
        return (← useTreeN n false).map ([head] ++ colons ++ ·)
      else if ← peek (Peek.word "as") then return some (head :: (← renamed))
      else return some [head]
    else if ← peek (Peek.op "*") then return some (← opParts "*")
    else if ← peek (Peek.group .brace) then
      let (trees, span) ← within .brace (loop do
        if ← peek Peek.atEnd then return none
        let colons ← if root then op? "::" else pure none
        let tree ← useTreeN n (root && colons.isNone)
        let comma ← if ← peek Peek.atEnd then pure [] else opParts ","
        if colons.isSome then return some none else return some (tree.map (· ++ comma)))
      if trees.any Option.isNone then return none
      else return some [.group .brace span (trees.flatMap (·.getD []))]
    else
      expected [.kind "identifier", .symbol "self", .symbol "super", .symbol "crate", .symbol "*",
        .kind "curly braces"]

/-- An import. -/
def useItem (start : Cursor) : Parser Item := do
  let vis ← visibility
  let word ← keywordPart "use"
  let leading ← op? "::"
  let tree ← useTreeN (Token.weightOf (← get).rest + 1) leading.isNone
  let semi ← opParts ";"
  match tree with
  | some tree =>
    return .other [] (vis.parts ++ [word] ++ Part.ofTokens (leading.getD []) ++ tree ++ semi)
  | none => keptSince start

/-- The import of a library. -/
def externCrate : Parser Item := do
  let vis ← visibility
  let word ← keywordPart "extern"
  let unit ← keywordPart "crate"
  let i ← if ← peek (Peek.word "self") then anyWord else name
  let more ← if ← peek (Peek.word "as") then renamed else pure []
  let semi ← opParts ";"
  return .other [] (vis.parts ++ [word, unit, .token (.ident i)] ++ more ++ semi)

/-- A static variable; one without a type or without a value is kept as it was read. -/
def staticItem (r : Rules) (start : Cursor) : Parser Item := do
  let vis ← visibility
  let word ← keywordPart "static"
  let mutable ← keywordParts? "mut"
  let i ← name
  if ← peek (Peek.op "=") then
    let _ ← op "="
    let _ ← r.expr true
    let _ ← op ";"
    keptSince start
  else
    let colon ← opParts ":"
    let t ← r.ty true true
    if ← peek (Peek.op ";") then
      let _ ← op ";"
      keptSince start
    else
      let eq ← opParts "="
      let value ← r.expr true
      let semi ← opParts ";"
      return .other [] (vis.parts ++ [word] ++ mutable ++ [.token (.ident i)] ++ colon ++ [.ty t] ++
        eq ++ [.expr value] ++ semi)

/-- A constant; one without a value is kept as it was read. -/
def constItem (r : Rules) (start : Cursor) : Parser Item := do
  let vis ← visibility
  let word ← keywordPart "const"
  let i ← nameOrBlank
  let colon ← opParts ":"
  let t ← r.ty true true
  if ← peek (Peek.op ";") then
    let _ ← op ";"
    keptSince start
  else
    let eq ← opParts "="
    let value ← r.expr true
    let semi ← opParts ";"
    return .other [] (vis.parts ++ [word, .token (.ident i)] ++ colon ++ [.ty t] ++ eq ++
      [.expr value] ++ semi)

/-- A declaration of a type's name, and where its `where` clause may stand. -/
structure AliasDecl where
  vis : Visibility
  default : Option Span
  word : Part
  ident : Ident
  generics : Generics
  bounds : List Part
  hasColon : Bool
  value : List Part

/-- A declaration of a type's name; `before` and `after` tell where a `where` clause may stand. -/
def aliasDecl (r : Rules) (before after : Bool) : Parser AliasDecl := do
  let vis ← visibility
  let default ← keyword? "default"
  let word ← keywordPart "type"
  let ident ← name
  let params ← generics r
  let hasColon ← peek (Peek.op ":")
  let bounds ← if hasColon then
      let _ ← op ":"
      let ends : Peek := fun ts => Peek.word "where" ts || Peek.op "=" ts || Peek.op ";" ts
      let (bs, trailing) ← separated "+" (peek ends) (bound r)
      pure (boundParts bs trailing)
    else pure []
  let early ← if before then whereClause? r else pure none
  let value ← if ← peek (Peek.op "=") then
      let eq ← opParts "="
      pure (eq ++ [.ty (← r.ty true true)])
    else pure []
  let late ← if after && early.isNone then whereClause? r else pure none
  let _ ← op ";"
  let params := { params with clause := early.or late }
  return ⟨vis, default, word, ident, params, bounds, hasColon, value⟩

/-- Another name for a type; one without a value is kept as it was read. -/
def typeItem (r : Rules) (start : Cursor) : Parser Item := do
  let a ← aliasDecl r true false
  if a.default.isSome || a.hasColon || a.value.isEmpty then keptSince start
  else
    return .other [] (a.vis.parts ++ [a.word, .token (.ident a.ident)] ++ a.generics.paramParts ++
      a.generics.clauseParts ++ a.value ++ Part.operator ";")

/-- A macro invocation as an item; a semicolon follows unless it has braces. `named` allows a name
behind the `!`. -/
def callItem (named : Bool) : Parser (List Part) := do
  let path ← namePath
  let bang ← opParts "!"
  let ident ← if named && (← peek Peek.name) then pure [Part.token (.ident (← name))] else pure []
  let (d, tokens, s) ← macroGroup
  let semi ← if d == .brace then pure [] else opParts ";"
  return [.path path.toPath] ++ bang ++ ident ++ [.token (.group d tokens s)] ++ semi

/-- Whether a macro invocation may be next. -/
def peekCallItem : Peek := fun ts =>
  Peek.name ts || Peek.word "self" ts || Peek.word "super" ts || Peek.word "crate" ts ||
    Peek.op "::" ts

/-- What a macro invocation may begin with. -/
def callStarts : List Expectation :=
  [.kind "identifier", .symbol "self", .symbol "super", .symbol "crate", .symbol "::"]

/-- Members up to the end of a body, behind the attributes at its beginning. -/
def members (member_ : Parser (List Part)) : Parser Part :=
  groupPart .brace do
    let attrs ← innerAttributes
    let found ← loop do
      if ← peek Peek.atEnd then return none else return some (← member_)
    return attrs.map .attr ++ found.flatten

/-- A module. -/
def modItem (r : Rules) : Parser Item := do
  let vis ← visibility
  let word ← keywordPart "mod"
  let i ← name
  let head := vis.parts ++ [word, .token (.ident i)]
  if ← peek (Peek.op ";") then return .other [] (head ++ (← opParts ";"))
  else if ← peek (Peek.group .brace) then
    return .other [] (head ++ [← members do return (← r.item).parts])
  else expected [.symbol ";", .kind "curly braces"]

/-- A function in a foreign block, a trait or an implementation: its signature with a body or a
semicolon. Answers whether it has a body. -/
def memberFn (r : Rules) : Parser (List Part × Bool) := do
  let sig ← signature r
  if ← peek (Peek.group .brace) then
    let (attrs, body) ← fnBody r
    return (sig.parts ++ bodyParts attrs body, true)
  else if ← peek (Peek.op ";") then return (sig.parts ++ (← opParts ";"), false)
  else expected [.kind "curly braces", .symbol ";"]

/-- A member of a foreign block. -/
def foreignMember (r : Rules) : Parser (List Part) := do
  let start ← get
  let attrs ← outerAttributes
  match ← ahead visibility with
  | .error e => fail e
  | .ok (vis, c) =>
    let next := c.rest
    let isFn ← succeeds (do let _ ← visibility; if ← peekSignature then pure () else expected [])
    if isFn then
      let vis ← visibility
      let sig ← signature r
      if ← peek (Peek.group .brace) then
        let _ ← fnBody r
        sinceParts start
      else return outerParts attrs ++ vis.parts ++ sig.parts ++ (← opParts ";")
    else if Peek.word "static" next then
      let vis ← visibility
      let word ← keywordPart "static"
      let mutable ← keywordParts? "mut"
      let i ← name
      let colon ← opParts ":"
      let t ← r.ty true true
      if ← peek (Peek.op "=") then
        let _ ← op "="
        let _ ← r.expr true
        let _ ← op ";"
        sinceParts start
      else
        return outerParts attrs ++ vis.parts ++ [word] ++ mutable ++ [.token (.ident i)] ++ colon ++
          [.ty t] ++ (← opParts ";")
    else if Peek.word "type" next then
      let a ← aliasDecl r true true
      if a.default.isSome || !a.generics.params.isEmpty || a.generics.clause.isSome || a.hasColon ||
          !a.value.isEmpty then
        sinceParts start
      else
        return outerParts attrs ++ a.vis.parts ++ [a.word, .token (.ident a.ident)] ++
          Part.operator ";"
    else if isInherited vis && peekCallItem next then return outerParts attrs ++ (← callItem false)
    else
      set c
      expected ([.symbol "fn", .symbol "static", .symbol "type"] ++
        if isInherited vis then callStarts else [])

/-- A block of foreign declarations. -/
def foreignBlock (r : Rules) : Parser (List Part) := do
  match ← abi? with
  | some a => return a.parts ++ [← members (foreignMember r)]
  | none => expected [.symbol "extern"]

/-- A constant in a trait. -/
def traitConst (r : Rules) : Parser (List Part) := do
  let word ← keywordPart "const"
  let i ← nameOrBlank
  let colon ← opParts ":"
  let t ← r.ty true true
  let value ← if ← peek (Peek.op "=") then
      let eq ← opParts "="
      pure (eq ++ [.expr (← r.expr true)])
    else pure []
  return [word, .token (.ident i)] ++ colon ++ [.ty t] ++ value ++ (← opParts ";")

/-- A type in a trait or an implementation, its `where` clause last. -/
def memberTypeParts (a : AliasDecl) : List Part :=
  a.vis.parts ++ Part.wordAt "default" a.default ++ [a.word, .token (.ident a.ident)] ++
    a.generics.paramParts ++ a.bounds ++ a.value ++ a.generics.clauseParts ++ Part.operator ";"

/-- A member of a trait. One with a visibility or `default` is kept as it was read. -/
def traitMember (r : Rules) : Parser (List Part) := do
  let start ← get
  let attrs ← outerAttributes
  let vis ← visibility
  let default ← keyword? "default"
  let parts ← if ← peekSignature then (·.1) <$> memberFn r
    else if ← peek (Peek.word "const") then traitConst r
    else if ← peek (Peek.word "type") then memberTypeParts <$> aliasDecl r false true
    else if ← peek peekCallItem then callItem false
    else expected ([.symbol "fn", .symbol "const", .symbol "type"] ++ callStarts)
  if isInherited vis && default.isNone then return outerParts attrs ++ parts else sinceParts start

/-- The rest of a trait behind its parameters. -/
def traitBody (r : Rules) (head : List Part) (params : Generics) : Parser Item := do
  let bounds ← if ← peek (Peek.op ":") then
      let _ ← op ":"
      let (bs, trailing) ←
        separated "+" (peek (Peek.or (Peek.word "where") (Peek.group .brace))) (bound r)
      pure (boundParts bs trailing)
    else pure []
  let clause ← whereClause? r
  let params := { params with clause := clause }
  let found ← members (traitMember r)
  return .other [] (head ++ params.paramParts ++ bounds ++ params.clauseParts ++ [found])

/-- A trait, or a shorter name for several. -/
def traitItem (r : Rules) : Parser Item := do
  let vis ← visibility
  let unsafety ← keywordParts? "unsafe"
  let auto ← keywordParts? "auto"
  let word ← keywordPart "trait"
  let i ← name
  let params ← generics r
  let head := vis.parts ++ unsafety ++ auto ++ [word, .token (.ident i)]
  if !unsafety.isEmpty || !auto.isEmpty then traitBody r head params
  else if ← peek (fun ts => Peek.group .brace ts || Peek.op ":" ts || Peek.word "where" ts) then
    traitBody r head params
  else if ← peek (Peek.op "=") then
    let eq ← opParts "="
    let (bs, trailing) ←
      separated "+" (peek (Peek.or (Peek.word "where") (Peek.op ";"))) (bound r)
    let clause ← whereClause? r
    let semi ← opParts ";"
    let params := { params with clause := clause }
    return .other [] (head ++ params.paramParts ++ eq ++
      Part.punctuated "+" trailing (bs.map fun b => [.bound b]) ++ params.clauseParts ++ semi)
  else expected [.kind "curly braces", .symbol ":", .symbol "where", .symbol "="]

/-- A member of an implementation. -/
def implMember (r : Rules) : Parser (List Part) := do
  let start ← get
  let attrs ← outerAttributes
  let vis ← visibility
  let default ← if ← peek (Peek.butNot (Peek.word "default") (Peek.second (Peek.op "!"))) then
      keyword? "default"
    else pure none
  let head := outerParts attrs ++ vis.parts ++ Part.wordAt "default" default
  if ← peekSignature then
    let sig ← signature r
    if ← peek (Peek.op ";") then
      let _ ← op ";"
      sinceParts start
    else
      let (inner, body) ← fnBody r
      return head ++ sig.parts ++ bodyParts inner body
  else if ← peek (Peek.word "const") then
    let word ← keywordPart "const"
    let i ← nameOrBlank
    let colon ← opParts ":"
    let t ← r.ty true true
    if ← peek (Peek.op "=") then
      let eq ← opParts "="
      let value ← r.expr true
      return head ++ [word, .token (.ident i)] ++ colon ++ [.ty t] ++ eq ++ [.expr value] ++
        (← opParts ";")
    else
      let _ ← op ";"
      sinceParts start
  else if ← peek (Peek.word "type") then
    let a ← aliasDecl r false true
    if a.hasColon || a.value.isEmpty then sinceParts start else return head ++ memberTypeParts a
  else if isInherited vis && default.isNone && (← peek peekCallItem) then
    return head ++ (← callItem false)
  else
    expected ((if default.isSome then [] else [.symbol "default"]) ++
      [.symbol "fn", .symbol "const", .symbol "type"] ++
      if isInherited vis && default.isNone then callStarts else [])

/-- Whether `<` begins parameters rather than a type. -/
def peekParams : Peek := fun ts =>
  Peek.op "<" ts && (Peek.second (Peek.op ">") ts || Peek.second (Peek.op "#") ts ||
    ((Peek.second Peek.lifetime ts || Peek.second Peek.name ts) &&
      (Peek.third (Peek.op ":") ts || Peek.third (Peek.op ",") ts || Peek.third (Peek.op ">") ts ||
        Peek.third (Peek.op "=") ts)) ||
    Peek.second (Peek.word "const") ts)

/-- A type without the invisible groups around it. -/
def ungroup : Ty → Ty
  | .group _ t => ungroup t
  | t => t

/-- The trait of an implementation, if a type is one. -/
def traitPath? (t : Ty) : Option Path :=
  match ungroup t with
  | .path p => some p
  | _ => none

/-- An implementation. One with a visibility, a `const` or something that is no trait in the place
of one is kept as it was read. -/
def implItem (r : Rules) (start : Cursor) : Parser Item := do
  let vis ← visibility
  let default ← keywordParts? "default"
  let unsafety ← keywordParts? "unsafe"
  let word ← keywordPart "impl"
  let params ← if ← peek peekParams then generics r else pure .empty
  let constant ← peek fun ts =>
    Peek.word "const" ts || (Peek.op "?" ts && Peek.second (Peek.word "const") ts)
  if constant then
    let _ ← op? "?"
    let _ ← keyword "const"
  let typeStart ← get
  let negative ← if ← peek (Peek.butNot (Peek.op "!") (Peek.second (Peek.group .brace))) then
      opParts "!"
    else pure []
  let first ← r.ty true true
  let (target, odd) ← if ← peek (Peek.word "for") then
      let forWord ← keywordPart "for"
      let self ← r.ty true true
      match traitPath? first with
      | some p => pure (negative ++ [.path p, forWord, .ty self], false)
      | none => pure ([], true)
    else if negative.isEmpty then pure ([.ty first], false)
    else pure (← sinceParts typeStart, false)
  let clause ← whereClause? r
  let params := { params with clause := clause }
  let found ← members (implMember r)
  if !isInherited vis || constant || odd then keptSince start
  else
    return .other [] (default ++ unsafety ++ [word] ++ params.paramParts ++ target ++
      params.clauseParts ++ [found])

/-- A macro's definition by keyword. -/
def macroItem : Parser Item := do
  let vis ← visibility
  let word ← keywordPart "macro"
  let i ← name
  let args ← if ← peek (Peek.group .paren) then
      let (tokens, span) ← within .paren everything
      pure [Part.token (.group .paren tokens span)]
    else pure []
  if ← peek (Peek.group .brace) then
    let (tokens, span) ← within .brace everything
    return .other [] (vis.parts ++ [word, .token (.ident i)] ++ args ++
      [.token (.group .brace tokens span)])
  else
    expected ((if args.isEmpty then [.kind "parentheses"] else []) ++ [.kind "curly braces"])

/-! ## 5. Items -/

/-- A function, or its signature alone, which is kept as it was read. -/
def functionItem (r : Rules) (start : Cursor) : Parser Item := do
  let vis ← visibility
  let sig ← signature r
  if ← peek (Peek.op ";") then
    let _ ← op ";"
    keptSince start
  else
    let (inner, body) ← fnBody r
    return .function ⟨inner, vis, sig, body⟩

/-- An item that begins with `extern` and is no function; `next` is what follows the word. -/
def externItem (r : Rules) (next : Cursor) : Parser Item := do
  let ts := next.rest
  if Peek.word "crate" ts then externCrate
  else if Peek.group .brace ts then return .other [] (← foreignBlock r)
  else
    match litAhead ts with
    | .token _ (.str _) rest =>
      if Peek.group .brace rest then return .other [] (← foreignBlock r)
      else
        set { next with rest := rest }
        expected [.kind "curly braces"]
    | .unknown text => fail (.unknownLiteral text)
    | _ =>
      set next
      expected [.symbol "crate", .kind "curly braces", .kind "string literal"]

/-- An item that begins with `unsafe` and is no function; `next` is what follows the word. -/
def unsafeItem (r : Rules) (start next : Cursor) : Parser Item := do
  let ts := next.rest
  if Peek.word "trait" ts || (Peek.word "auto" ts && Peek.second (Peek.word "trait") ts) then
    traitItem r
  else if Peek.word "impl" ts then implItem r start
  else if Peek.word "extern" ts then
    let _ ← visibility
    let _ ← keyword "unsafe"
    let _ ← foreignBlock r
    keptSince start
  else if Peek.word "mod" ts then
    let _ ← visibility
    let _ ← keyword "unsafe"
    let _ ← modItem r
    keptSince start
  else
    set next
    expected [.symbol "trait", .symbol "auto", .symbol "impl", .symbol "extern", .symbol "mod"]

/-- What an item may begin with behind its visibility. -/
def itemStarts : List Expectation :=
  [.symbol "fn", .symbol "extern", .symbol "use", .symbol "static", .symbol "const",
    .symbol "unsafe", .symbol "mod", .symbol "type", .symbol "struct", .symbol "enum",
    .symbol "union", .symbol "trait", .symbol "auto", .symbol "impl", .symbol "default",
    .symbol "macro"]

/-- An item behind its attributes; `next` is what follows its visibility. -/
def itemBody (r : Rules) (start : Cursor) (vis : Visibility) (next : Cursor) (isFn : Bool) :
    Parser Item := do
  let ts := next.rest
  let behind : Cursor := { next with rest := (Peek.skip (reveal ts)).getD [] }
  if isFn then functionItem r start
  else if Peek.word "extern" ts then externItem r behind
  else if Peek.word "use" ts then useItem start
  else if Peek.word "static" ts then staticItem r start
  else if Peek.word "const" ts then
    if Peek.name behind.rest || Peek.word "_" behind.rest then constItem r start
    else
      set behind
      expected [.kind "identifier", .symbol "_"]
  else if Peek.word "unsafe" ts then unsafeItem r start behind
  else if Peek.word "mod" ts then modItem r
  else if Peek.word "type" ts then typeItem r start
  else if Peek.word "struct" ts then structItem r
  else if Peek.word "enum" ts then enumItem r
  else if Peek.word "union" ts && Peek.second Peek.name ts then unionItem r
  else if Peek.word "trait" ts then traitItem r
  else if Peek.word "auto" ts && Peek.second (Peek.word "trait") ts then traitItem r
  else if Peek.word "impl" ts || (Peek.word "default" ts && !Peek.second (Peek.op "!") ts) then
    implItem r start
  else if Peek.word "macro" ts then macroItem
  else if isInherited vis && peekCallItem ts then return .other [] (← callItem true)
  else
    set next
    expected (itemStarts ++ if isInherited vis then callStarts else [])

/-- An item. -/
def item (r : Rules) : Parser Item := do
  let start ← get
  let attrs ← outerAttributes
  match ← ahead visibility with
  | .error e => fail e
  | .ok (vis, next) =>
    let isFn ← succeeds (do let _ ← visibility; if ← peekSignature then pure () else expected [])
    return (← itemBody r start vis next isFn).prependAttrs attrs

end Graft.Grammar
