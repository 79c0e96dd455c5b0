import Graft.Grammar.Entry

/-!
# Texts with holes

A string literal, a `format!(..)` or a `concat!(..)` stands for a text in which some pieces may not
be known before the program runs.

* `Template.ofFormat`: the pieces of a format template. A doubled brace is a brace, and a single
  opening brace begins a hole, which reaches to the next closing brace.
* `Template.ofExpr?`: the pieces an expression stands for, seen through parentheses.
* `Template.static?`: the text of an expression that has no holes.
-/

namespace Graft

/-- A piece of a text: characters that are known, or a hole. -/
inductive Piece where
  | text (chars : List Char)
  | hole (name : List Char)
deriving DecidableEq, Repr, Inhabited

/-- A text in pieces. -/
abbrev Template := List Piece

namespace Template

/-! ## 1. Joining pieces -/

/-- Puts a text in front of a template; neighbouring texts become one. -/
def consText (chars : List Char) : Template → Template
  | .text more :: rest => .text (chars ++ more) :: rest
  | rest => .text chars :: rest

/-- A template without neighbouring texts. -/
def joinTexts : Template → Template
  | [] => []
  | .text chars :: rest => consText chars (joinTexts rest)
  | .hole name :: rest => .hole name :: joinTexts rest

/-- A template of no pieces is the empty text. -/
def orEmpty : Template → Template
  | [] => [.text []]
  | pieces => pieces

/-! ## 2. Format templates -/

/-- The pieces of a format template, a text of one character for each character. -/
def scan (cs : List Char) : Template :=
  match cs with
  | [] => []
  | '\x7b' :: '\x7b' :: rest => .text ['\x7b'] :: scan rest
  | '\x7d' :: '\x7d' :: rest => .text ['\x7d'] :: scan rest
  | '\x7b' :: rest =>
    .hole (rest.takeWhile (· != '\x7d')) :: scan ((rest.dropWhile (· != '\x7d')).drop 1)
  | c :: rest => .text [c] :: scan rest
termination_by cs.length
decreasing_by
  all_goals simp only [List.length_cons, List.length_drop]
  all_goals try omega
  have := (List.dropWhile_suffix (l := rest) (· != '\x7d')).length_le
  omega

/-- The pieces of a format template. -/
def ofFormat (cs : List Char) : Template := orEmpty (joinTexts (scan cs))

/-! ## 3. Expressions -/

/-- What an argument contributes to a concatenation: the content of a literal, or a hole. -/
def pieceOf (e : Expr) : Piece :=
  match e with
  | .lit _ t v =>
    match v.content? with
    | some text => .text text.toList
    | none => .hole t.text.toList
  | e => .hole (Token.render e.tokens).toList

/-- The pieces of a concatenation. -/
def ofConcat (args : List Expr) : Template := orEmpty (joinTexts (args.map pieceOf))

/-- The text of an expression that is directly a string literal. -/
def stringOf? : Expr → Option String
  | .lit _ _ (.str value) => some value
  | _ => none

/-- The arguments of a macro invocation, if they are expressions with commas between them. -/
def callArgs (m : MacroCall) : Except SyntaxError (List Expr) :=
  Graft.parse (fun r => (·.1) <$> Parser.terminated (Grammar.expr r true)) m.tokens

/-- The pieces that a macro invocation stands for. -/
def ofCall? (m : MacroCall) : Option Template :=
  match m.path.single?, callArgs m with
  | some name, .ok args =>
    if name.text == "format" then
      (args.head?.bind stringOf?).map fun value => ofFormat value.toList
    else if name.text == "concat" then some (ofConcat args)
    else none
  | _, _ => none

/-- The pieces that an expression stands for. -/
def ofExpr? : Expr → Option Template
  | .lit _ _ (.str value) => some [.text value.toList]
  | .group _ _ e => ofExpr? e
  | .paren _ _ e => ofExpr? e
  | .call _ m => ofCall? m
  | _ => none

/-- A literal of unknown form among the arguments of the macro invocation that an expression is;
reading stops there altogether. -/
def unreadable? : Expr → Option String
  | .group _ _ e => unreadable? e
  | .paren _ _ e => unreadable? e
  | .call _ m =>
    match m.path.single?, callArgs m with
    | some _, .error (.unknownLiteral text) => some text
    | _, _ => none
  | _ => none

/-- Whether a template is one text without holes. -/
def isSingle : Template → Bool
  | [.text _] => true
  | _ => false

/-- The text of a template without holes. -/
def text? : Template → Option String
  | [.text chars] => some (String.ofList chars)
  | _ => none

/-- The text of an expression that has no holes. -/
def static? (e : Expr) : Option String := (ofExpr? e).bind text?

end Template

end Graft
