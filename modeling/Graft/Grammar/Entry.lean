import Graft.Grammar.Items

/-!
# Reading whole phrases

`Rules.atDepth` ties the rules together: a rule of depth `n + 1` refers to those of depth `n`. A
phrase nests no deeper than a small multiple of the number of its tokens, so `parse` picks a depth
that is never reached.

`parse` reads a list of tokens from its beginning to its end. `Item.parse`, `Expr.parse` and the
others do so for one kind of phrase.
-/

namespace Graft

open Grammar

/-- The rules that refer to nothing: each of them fails. -/
def Rules.bottom : Rules where
  ty _ _ := Parser.fail .tooDeep
  expr _ := Parser.fail .tooDeep
  unary _ := Parser.fail .tooDeep
  climb _ _ _ := Parser.fail .tooDeep
  early := Parser.fail .tooDeep
  pat := Parser.fail .tooDeep
  stmts := Parser.fail .tooDeep
  item := Parser.fail .tooDeep

/-- Rules that refer to given ones. -/
def Rules.above (r : Rules) : Rules where
  ty := Grammar.ty r
  expr := Grammar.expr r
  unary := Grammar.unary r
  climb := Grammar.climb r
  early := Grammar.early r
  pat := Grammar.pattern r
  stmts := Grammar.stmts r
  item := Grammar.item r

/-- The rules for phrases that nest at most `n` deep. -/
def Rules.atDepth : Nat → Rules
  | 0 => .bottom
  | n + 1 => .above (atDepth n)

/-- Rules deep enough for these tokens. -/
def Rules.forTokens (ts : List Token) : Rules := .atDepth (4 * Token.weightOf ts + 16)

/-- Reads all of these tokens as one phrase. What was left over inside a group is reported before
what follows the phrase. -/
def parse {α : Type} (p : Rules → Parser α) (ts : List Token) : Except SyntaxError α :=
  match (p (.forTokens ts)).run { rest := ts, stop := .callSite, leftover := none } with
  | .error e => .error e
  | .ok (a, c) =>
    match c.leftover.or (Parser.firstLeft c.rest) with
    | some span => .error (.leftover span)
    | none => .ok a

/-- An expression. -/
def Expr.parse : List Token → Except SyntaxError Expr := Graft.parse fun r => Grammar.expr r true

/-- A type. -/
def Ty.parse : List Token → Except SyntaxError Ty := Graft.parse fun r => Grammar.ty r true true

/-- An item. -/
def Item.parse : List Token → Except SyntaxError Item := Graft.parse Grammar.item

/-- A function with a body. -/
def FnItem.parse : List Token → Except SyntaxError FnItem := Graft.parse Grammar.fnItem

/-- A property's declaration. -/
def PropertyDecl.parse : List Token → Except SyntaxError PropertyDecl :=
  Graft.parse Grammar.propertyDecl

/-- A path in the style of types. -/
def Path.parse : List Token → Except SyntaxError Path := Graft.parse fun r => Grammar.path r false

/-- A name. -/
def Ident.parse : List Token → Except SyntaxError Ident := Graft.parse fun _ => Parser.name

/-- A visibility. -/
def Visibility.parse : List Token → Except SyntaxError Visibility :=
  Graft.parse fun _ => Grammar.visibility

/-- The parameters of a declaration. -/
def Generics.parse : List Token → Except SyntaxError Generics := Graft.parse Grammar.generics

/-- A `where` clause. -/
def WhereClause.parse : List Token → Except SyntaxError WhereClause :=
  Graft.parse fun r => do
    match ← Grammar.whereClause? r with
    | some c => return c
    | none => Parser.expected [.symbol "where"]

/-- Attributes in front of something. -/
def Attribute.parseOuter : List Token → Except SyntaxError (List Attribute) :=
  Graft.parse fun _ => Grammar.outerAttributes

end Graft
