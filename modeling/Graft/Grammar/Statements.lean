import Graft.Grammar.Expressions

/-!
# Statements

The inside of a block. `stmts` reads statements up to the end: a `let`, an item, a macro
invocation between braces, or an expression. An expression that does not end by itself has to be
the last one unless a semicolon follows it.
-/

namespace Graft.Grammar

open Graft.Parser

/-- Attributes for an expression, given to the leftmost operand of assignments and operators. -/
def addLeftAttrs (attrs : List Attribute) (e : Expr) : Expr :=
  match e with
  | .other own .assignment (.expr left :: rest) =>
    .other own .assignment (.expr (addLeftAttrs attrs left) :: rest)
  | .other own .binary (.expr left :: rest) =>
    .other own .binary (.expr (addLeftAttrs attrs left) :: rest)
  | e => addAttrs attrs e

/-- Whether an item is next. -/
def peekItem : Peek := fun ts =>
  Peek.word "pub" ts || (Peek.word "crate" ts && !Peek.second (Peek.op "::") ts) ||
    Peek.word "extern" ts || Peek.word "use" ts ||
    (Peek.word "static" ts && (Peek.second (Peek.word "mut") ts ||
      (Peek.second Peek.name ts && !(Peek.second (Peek.word "async") ts &&
        (Peek.third (Peek.word "move") ts || Peek.third (Peek.op "|") ts))))) ||
    (Peek.word "const" ts && !Peek.second (Peek.group .brace) ts) ||
    (Peek.word "unsafe" ts && !Peek.second (Peek.group .brace) ts) ||
    (Peek.word "async" ts && (Peek.second (Peek.word "unsafe") ts ||
      Peek.second (Peek.word "extern") ts || Peek.second (Peek.word "fn") ts)) ||
    Peek.word "fn" ts || Peek.word "mod" ts || Peek.word "type" ts || Peek.word "struct" ts ||
    Peek.word "enum" ts || (Peek.word "union" ts && Peek.second Peek.name ts) ||
    (Peek.word "auto" ts && Peek.second (Peek.word "trait") ts) || Peek.word "trait" ts ||
    (Peek.word "default" ts && (Peek.second (Peek.word "unsafe") ts ||
      Peek.second (Peek.word "impl") ts)) ||
    Peek.word "impl" ts || Peek.word "macro" ts

/-- Whether a macro invocation is next that is a statement by itself. -/
def peekStatementCall : Parser Bool := do
  match ← ahead namePath with
  | .ok (_, c) =>
    let ts := c.rest
    return Peek.op "!" ts && ((Peek.second (Peek.group .brace) ts &&
      !(Peek.third (Peek.op ".") ts || Peek.third (Peek.op "?") ts)) || Peek.second Peek.name ts)
  | .error _ => return false

/-- A macro invocation as a statement. -/
def statementCall (attrs : List Attribute) : Parser (List Part) := do
  let path ← namePath
  let bang ← opParts "!"
  let ident ← if ← peek Peek.name then pure [Part.token (.ident (← name))] else pure []
  let (d, tokens, s) ← macroGroup
  let semi ← if ← peek (Peek.op ";") then opParts ";" else pure []
  return outerParts attrs ++ [.path path.toPath] ++ bang ++ ident ++
    [.token (.group d tokens s)] ++ semi

/-- A `let` statement. With an `else` it is kept as it was read, from `start` on. -/
def letStatement (r : Rules) (start : Cursor) (attrs : List Attribute) : Parser (List Part) := do
  let word ← keywordPart "let"
  let pat ← alternatives r true
  let typed ← if ← peek (Peek.op ":") then
      let colon ← opParts ":"
      pure (colon ++ [.ty (← r.ty true true)])
    else pure []
  let head := outerParts attrs ++ [word] ++ pat.parts ++ typed
  if ← peek (Peek.op "=") then
    let eq ← opParts "="
    let value ← r.expr true
    if ← peek (Peek.word "else") then
      let _ ← keyword "else"
      let _ ← groupPart .brace r.stmts
      let kept ← sinceParts start
      return kept ++ (← opParts ";")
    else return head ++ eq ++ [.expr value] ++ (← opParts ";")
  else return head ++ (← opParts ";")

/-- A statement, and whether something has to end it before the next one. -/
def statement (r : Rules) : Parser (List Part × Bool) := do
  let start ← get
  let attrs ← outerAttributes
  if ← peekStatementCall then return (← statementCall attrs, false)
  else if ← peek (Peek.word "let") then return (← letStatement r start attrs, false)
  else if ← peek peekItem then
    let item ← r.item
    return ((item.prependAttrs attrs).parts, false)
  else
    let e := addLeftAttrs attrs (← r.early)
    if ← peek (Peek.op ";") then return (.expr e :: (← opParts ";"), false)
    else return ([.expr e], needsEnd e)

/-- Statements up to the end. -/
def stmts (r : Rules) : Parser (List Part) := do
  let pieces ← loop do
    if ← peek (Peek.op ";") then return some (← opParts ";")
    if ← peek Peek.atEnd then return none
    let (parts, open_) ← statement r
    if open_ && !(← peek Peek.atEnd) then fail (.leftover (spanAhead (← get)))
    else return some parts
  return pieces.flatten

end Graft.Grammar
