import Graft.Grammar.Cursor
import Graft.Tree.Decl

/-!
# The rules of the grammar

Phrases nest in each other: a type holds expressions, an expression holds types, patterns and
blocks, and a block holds items. `Rules` has one parser for each kind of phrase that another kind
refers to. The modules beside this one define each rule in terms of the rules one level down, so
none of them is recursive by itself; the last one ties them together.

This module also has the phrases that refer to no other: attributes, paths without arguments and
literals.
-/

namespace Graft

/-- The parsers of the phrases that others refer to. -/
structure Rules where
  /-- A type. `plus` allows several bounds; `generics` allows arguments behind an invisible
  group. -/
  ty : (plus generics : Bool) → Parser Ty
  /-- An expression. `structs` allows a struct literal where it is not followed by a block. -/
  expr : (structs : Bool) → Parser Expr
  /-- An expression without binary operators. -/
  unary : (structs : Bool) → Parser Expr
  /-- The binary operators of at least some precedence behind an expression. -/
  climb : (structs : Bool) → (base : Nat) → Expr → Parser Expr
  /-- An expression in the place of a statement. -/
  early : Parser Expr
  /-- A pattern without alternatives. -/
  pat : Parser Pat
  /-- Statements up to the end of a block. -/
  stmts : Parser (List Part)
  /-- An item. -/
  item : Parser Item

namespace Grammar

open Graft.Parser

/-! ## 1. Literals -/

/-- What the tokens ahead have for a literal. -/
inductive LitAhead where
  | none
  | unknown (text : String)
  | token (t : Token) (value : Lit) (rest : List Token)
  | negative (minus : Span) (t : Token) (rest : List Token)

/-- The literal ahead: a literal token, `true` or `false`, or a minus sign and a number. -/
def litAhead (ts : List Token) : LitAhead :=
  match reveal ts with
  | .literal text s :: rest =>
    match Lit.read? text with
    | some value => .token (.literal text s) value rest
    | Option.none => .unknown text
  | .ident i :: rest =>
    if i.text == "true" then .token (.ident i) (.bool true) rest
    else if i.text == "false" then .token (.ident i) (.bool false) rest
    else .none
  | .punct '-' _ minus :: rest =>
    match reveal rest with
    | .literal text s :: rest =>
      if (Lit.int? text.toList).isSome || (Lit.float? text.toList).isSome then
        .negative minus (.literal text s) rest
      else .none
    | _ => .none
  | _ => .none

/-- Whether a literal is next. -/
def peekLit : Parser Bool := do
  match litAhead (← get).rest with
  | .token .. => return true
  | .negative .. => return true
  | .unknown text => fail (.unknownLiteral text)
  | .none => return false

/-- Whether a string literal is next. -/
def peekStr : Parser Bool := do
  match litAhead (← get).rest with
  | .token _ (.str _) _ => return true
  | .unknown text => fail (.unknownLiteral text)
  | _ => return false

/-- Reads a literal. -/
def lit : Parser Expr := do
  match litAhead (← get).rest with
  | .token t value rest => advance rest; return .lit [] t value
  | .negative minus t rest =>
    advance rest
    return .other [] .negativeLiteral [.token (.punct '-' .alone minus), .token t]
  | .unknown text => fail (.unknownLiteral text)
  | .none => expectedKind "literal"

/-! ## 2. Paths without arguments -/

/-- A name, or a keyword that may begin a path. -/
def peekSegment : Peek := Peek.or Peek.name Peek.pathWord

/-- The names of a path, and whether a `::` comes last; `n` bounds their number. -/
def namePathN : Nat → Parser (List Ident × Bool)
  | 0 => fail .tooDeep
  | n + 1 => do
    if ← peek peekSegment then
      let i ← anyWord
      if ← peek (Peek.op "::") then
        let _ ← op "::"
        let (more, trailing) ← namePathN n
        return (i :: more, trailing)
      else return ([i], false)
    else return ([], true)

/-- A leading `::` and where it stands. -/
def leadingColons? : Parser (Option Span) := do
  match ← op? "::" with
  | some (t :: _) => return some t.span
  | _ => return none

/-- A path without arguments. -/
def namePath : Parser NamePath := do
  let leading ← leadingColons?
  let (names, trailing) ← namePathN (Token.weightOf (← get).rest + 1)
  if names.isEmpty then expectedKind "path"
  else if trailing then expectedKind "path segment"
  else return ⟨leading, names⟩

/-! ## 3. Attributes -/

/-- The place of a single punctuation character. -/
def mark (text : String) : Parser Span := do
  match ← op text with
  | t :: _ => return t.span
  | [] => return .callSite

/-- An attribute in front of what it speaks of. -/
def outerAttribute : Parser Attribute := do
  let pound ← mark "#"
  let ((path, tokens), bracket) ← within .bracket do
    let path ← namePath
    return (path, ← everything)
  return ⟨pound, false, bracket, path, tokens⟩

/-- An attribute inside what it speaks of. -/
def innerAttribute : Parser Attribute := do
  let pound ← mark "#"
  let _ ← op "!"
  let ((path, tokens), bracket) ← within .bracket do
    let path ← namePath
    return (path, ← everything)
  return ⟨pound, true, bracket, path, tokens⟩

/-- The attributes in front of something. -/
def outerAttributes : Parser (List Attribute) :=
  loop do if ← peek (Peek.op "#") then return some (← outerAttribute) else return none

/-- The attributes at the beginning of a body. -/
def innerAttributes : Parser (List Attribute) :=
  loop do
    if (← peek (Peek.op "#")) && (← peek (Peek.second (Peek.op "!"))) then
      return some (← innerAttribute)
    else return none

/-! ## 4. Macro invocations -/

/-- The group of a macro invocation. -/
def macroGroup : Parser (Delimiter × List Token × Span) := do
  match (← get).rest with
  | .group d inner s :: rest =>
    if d == .invisible then expectedKind "delimiter"
    else
      advance rest
      return (d, inner, s)
  | _ => expectedKind "delimiter"

/-- The rest of a macro invocation behind its path. -/
def macroCall (path : NamePath) : Parser MacroCall := do
  let bang ← mark "!"
  let (d, tokens, s) ← macroGroup
  return ⟨path, bang, d, s, tokens⟩

/-- A `!` that begins a macro invocation. -/
def peekBang : Peek := Peek.butNot (Peek.op "!") (Peek.op "!=")

end Grammar

end Graft
