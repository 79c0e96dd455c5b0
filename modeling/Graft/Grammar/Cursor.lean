import Graft.Tree.Basic

/-!
# Reading tokens in order

A parser takes tokens from the front of a list. Invisible groups are looked through: whoever
asks for an identifier, a punctuation character or a literal finds it inside them.

* `SyntaxError` and its `message`: what was found wrong, and where.
* `Cursor`: the tokens ahead, and where the end of the list is reported.
* `Peek`: a test of the tokens ahead; `second` and `third` test behind the first one or two.
* `Parser` and its steps: `op`, `keyword`, `name`, `within`, and loops that end because every
  round takes a token.
-/

namespace Graft

/-! ## 1. Errors -/

/-- Something a parser looks for. -/
inductive Expectation where
  /-- A keyword or punctuation, quoted in messages. -/
  | symbol (text : String)
  /-- A kind of token or phrase. -/
  | kind (name : String)
deriving DecidableEq, Repr

/-- How an expectation reads in a message. -/
def Expectation.text : Expectation → String
  | .symbol text => "`" ++ text ++ "`"
  | .kind name => name

/-- Why tokens could not be read. -/
inductive SyntaxError where
  /-- None of `what` is next; `atEnd` if nothing is. -/
  | expected (span : Span) (atEnd : Bool) (what : List Expectation)
  /-- Something follows a complete phrase. -/
  | leftover (span : Span)
  /-- A rule of the grammar that needs more than the next token to be stated. -/
  | rule (span : Span) (text : String)
  /-- A literal whose form is not known; reading stops altogether. -/
  | unknownLiteral (text : String)
  /-- Nesting beyond what the tokens allow. -/
  | tooDeep
deriving DecidableEq, Repr

namespace SyntaxError

/-- Where an error is reported. -/
def span : SyntaxError → Span
  | .expected s _ _ => s
  | .leftover s => s
  | .rule s _ => s
  | .unknownLiteral _ => .callSite
  | .tooDeep => .callSite

/-- The words for what was looked for. -/
def describe : List Expectation → String
  | [] => "unexpected token"
  | [a] => "expected " ++ a.text
  | [a, b] => "expected " ++ a.text ++ " or " ++ b.text
  | many => "expected one of: " ++ ", ".intercalate (many.map (·.text))

/-- The text of an error. -/
def message : SyntaxError → String
  | .expected _ true [] => "unexpected end of input"
  | .expected _ true what => "unexpected end of input, " ++ describe what
  | .expected _ false what => describe what
  | .leftover _ => "unexpected token"
  | .rule _ text => text
  | .unknownLiteral text => "Unrecognized literal: `" ++ text ++ "`"
  | .tooDeep => "nesting too deep"

end SyntaxError

/-! ## 2. The tokens ahead -/

theorem Token.weightOf_append (a b : List Token) :
    Token.weightOf (a ++ b) = Token.weightOf a + Token.weightOf b := by
  induction a with
  | nil => simp [Token.weightOf]
  | cons t rest ih => simp [Token.weightOf, ih, Nat.add_assoc]

/-- Enters the invisible groups in front. -/
def reveal (ts : List Token) : List Token :=
  match ts with
  | .group .invisible inner _ :: rest => reveal (inner ++ rest)
  | ts => ts
termination_by Token.weightOf ts
decreasing_by simp [Token.weightOf, Token.weight, Token.weightOf_append]

/-- A test of the tokens ahead. -/
abbrev Peek := List Token → Bool

namespace Peek

/-- The next token, and what is behind it; a lifetime counts as one token. -/
def skip : List Token → Option (List Token)
  | [] => none
  | .punct '\'' .joint _ :: .ident _ :: rest => some rest
  | _ :: rest => some rest

/-- A test behind the first token. In front of an invisible group the first token is also looked
for inside it. -/
def second (p : Peek) (ts : List Token) : Bool :=
  (match ts with
    | .group .invisible inner _ :: _ => (skip inner).any p
    | _ => false) || (skip ts).any p

/-- A test behind the second token. -/
def third (p : Peek) (ts : List Token) : Bool :=
  (match ts with
    | .group .invisible inner _ :: _ => ((skip inner).bind skip).any p
    | _ => false) || ((skip ts).bind skip).any p

/-- Whether these punctuation characters come next, each but the last joint to its successor. -/
def ofChars : List Char → Peek
  | [], _ => false
  | [c], ts =>
    match reveal ts with
    | .punct d _ _ :: _ => c == d && d != '\''
    | _ => false
  | c :: rest, ts =>
    match reveal ts with
    | .punct d .joint _ :: after => c == d && d != '\'' && ofChars rest after
    | _ => false

/-- An operator. -/
def op (text : String) : Peek := ofChars text.toList

/-- A keyword, or any identifier spelled so. -/
def word (text : String) : Peek := fun ts =>
  match reveal ts with
  | .ident i :: _ => i.text == text
  | _ => false

/-- Words that are not names. -/
def reserved : List String :=
  ["_", "abstract", "as", "become", "box", "break", "const", "continue", "crate", "do", "else",
    "enum", "extern", "false", "final", "fn", "for", "if", "impl", "in", "let", "loop", "macro",
    "match", "mod", "move", "mut", "override", "priv", "pub", "ref", "return", "Self", "self",
    "static", "struct", "super", "trait", "true", "type", "typeof", "unsafe", "unsized", "use",
    "virtual", "where", "while", "yield"]

/-- A name: an identifier that is not reserved. -/
def name : Peek := fun ts =>
  match reveal ts with
  | .ident i :: _ => !reserved.contains i.text
  | _ => false

/-- An identifier, reserved or not. -/
def anyWord : Peek := fun ts =>
  match reveal ts with
  | .ident _ :: _ => true
  | _ => false

/-- A lifetime. -/
def lifetime : Peek := fun ts =>
  match reveal ts with
  | .punct '\'' .joint _ :: .ident _ :: _ => true
  | _ => false

/-- A group with this delimiter. -/
def group (d : Delimiter) : Peek := fun ts =>
  match (if d == .invisible then ts else reveal ts) with
  | .group e _ _ :: _ => d == e
  | _ => false

/-- The end of the list. -/
def atEnd : Peek := fun ts => ts.isEmpty

/-- Either of two tests. -/
def or (p q : Peek) : Peek := fun ts => p ts || q ts

/-- One test but not the other. -/
def butNot (p q : Peek) : Peek := fun ts => p ts && !q ts

/-- A colon that is not the beginning of `::`. -/
def colon : Peek := butNot (op ":") (op "::")

/-- A keyword that may begin a path: `super`, `self`, `Self` or `crate`. -/
def pathWord : Peek := fun ts =>
  word "super" ts || word "self" ts || word "Self" ts || word "crate" ts

end Peek

/-! ## 3. Parsers -/

/-- Where reading stands. -/
structure Cursor where
  /-- The tokens ahead. -/
  rest : List Token
  /-- Where the end of these tokens is reported. -/
  stop : Span
  /-- The first token that was left over in a group that has been read. -/
  leftover : Option Span
deriving Inhabited

/-- A parser reads from a cursor or fails. -/
abbrev Parser := StateT Cursor (Except SyntaxError)

namespace Parser

/-- Fails with an error. -/
def fail {α : Type} (e : SyntaxError) : Parser α := throw e

/-- Where the next token starts, a group at its opening delimiter; at the end, where the end is
reported. -/
def spanAhead (c : Cursor) : Span :=
  match c.rest with
  | [] => c.stop
  | .group _ _ s :: _ => s.first
  | t :: _ => t.span

/-- Fails because something else was expected here. -/
def expected {α : Type} (what : List Expectation) : Parser α := do
  let c ← get
  fail (.expected (spanAhead c) c.rest.isEmpty what)

/-- Fails because a phrase of some kind was expected here. -/
def expectedKind {α : Type} (name : String) : Parser α := expected [.kind name]

/-- Tests the tokens ahead. -/
def peek (p : Peek) : Parser Bool := do return p (← get).rest

/-- Goes on behind the tokens that have been read. -/
def advance (rest : List Token) : Parser Unit := modify fun c => { c with rest := rest }

/-- Reads an identifier of any kind. -/
def anyWord : Parser Ident := do
  match reveal (← get).rest with
  | .ident i :: rest => advance rest; return i
  | _ => expectedKind "identifier"

/-- Reads a name. -/
def name : Parser Ident := do
  if ← peek Peek.name then anyWord else expectedKind "identifier"

/-- Reads a keyword. -/
def keyword (text : String) : Parser Span := do
  if ← peek (Peek.word text) then return (← anyWord).span else expected [.symbol text]

/-- Reads a keyword if it is next. -/
def keyword? (text : String) : Parser (Option Span) := do
  if ← peek (Peek.word text) then return some (← anyWord).span else return none

/-- The places of the operator's characters, if it is next, and the tokens behind it. -/
def opAhead : List Char → List Token → List Span → Option (List Span × List Token)
  | [], ts, spans => some (spans.reverse, ts)
  | c :: rest, ts, spans =>
    match reveal ts with
    | .punct d spacing s :: after =>
      if c == d && (rest.isEmpty || spacing == .joint) then opAhead rest after (s :: spans)
      else none
    | _ => none

/-- The tokens of an operator with the places of its characters. -/
def opTokens : List Char → List Span → List Token
  | [c], s :: _ => [.punct c .alone s]
  | c :: rest, s :: spans => .punct c .joint s :: opTokens rest spans
  | _, _ => []

/-- Where a missing operator is reported: at a punctuation character that is there instead, also
inside an invisible group. -/
def opSpan (c : Cursor) : Span :=
  match reveal c.rest with
  | .punct d _ s :: _ => if d == '\'' then spanAhead c else s
  | _ => spanAhead c

/-- Reads an operator. Its absence is reported in the same words at the end of the tokens. -/
def op (text : String) : Parser (List Token) := do
  let c ← get
  match (if Peek.op text c.rest then opAhead text.toList c.rest [] else none) with
  | some (spans, rest) => advance rest; return opTokens text.toList spans
  | none => fail (.expected (opSpan c) false [.symbol text])

/-- Reads an operator if it is next. -/
def op? (text : String) : Parser (Option (List Token)) := do
  if ← peek (Peek.op text) then return some (← op text) else return none

/-- Reads an operator as pieces. -/
def opParts (text : String) : Parser (List Part) := do return (← op text).map .token

/-- Reads a keyword as a piece. -/
def keywordPart (text : String) : Parser Part := do
  return .token (.ident ⟨text, ← keyword text⟩)

/-- Reads a keyword as pieces if it is next. -/
def keywordParts? (text : String) : Parser (List Part) := do
  return (wordAt text (← keyword? text)).map .token

/-- Reads a lifetime. -/
def lifetime : Parser Lifetime := do
  match reveal (← get).rest with
  | .punct '\'' .joint s :: .ident i :: rest => advance rest; return ⟨s, i⟩
  | _ => expectedKind "lifetime"

/-- Reads a lifetime if it is next. -/
def lifetime? : Parser (Option Lifetime) := do
  if ← peek Peek.lifetime then return some (← lifetime) else return none

/-- The first token that is left in a list, looking into invisible groups. -/
def firstLeft (ts : List Token) : Option Span :=
  match reveal ts with
  | [] => none
  | .group _ _ s :: _ => some s.first
  | t :: _ => some t.span

/-- How a missing group is called. -/
def groupName : Delimiter → String
  | .paren => "parentheses"
  | .bracket => "square brackets"
  | .brace => "curly braces"
  | .invisible => "invisible group"

/-- Reads a group with a parser for what is inside. Tokens that the parser leaves there are noted
as left over. -/
def within {α : Type} (d : Delimiter) (p : Parser α) : Parser (α × Span) := do
  let c ← get
  match (if d == .invisible then c.rest else reveal c.rest) with
  | .group e inner s :: rest =>
    if d == e then
      set ({ rest := inner, stop := s.last, leftover := c.leftover } : Cursor)
      let a ← p
      let after ← get
      let left := after.leftover.or (firstLeft after.rest)
      set ({ rest := rest, stop := c.stop, leftover := left } : Cursor)
      return (a, s)
    else expectedKind (groupName d)
  | _ => expectedKind (groupName d)

/-- Reads a group as a piece. -/
def groupPart (d : Delimiter) (p : Parser (List Part)) : Parser Part := do
  let (inner, s) ← within d p
  return .group d s inner

/-- The outcome of a parser, without going on. -/
def ahead {α : Type} (p : Parser α) : Parser (Except SyntaxError (α × Cursor)) := do
  return p.run (← get)

/-- Whether a parser would succeed here. An unknown literal still stops reading. -/
def succeeds {α : Type} (p : Parser α) : Parser Bool := do
  match ← ahead p with
  | .ok _ => return true
  | .error (.unknownLiteral t) => fail (.unknownLiteral t)
  | .error _ => return false

/-- The tokens between two points of the same list. An invisible group that the second point lies
inside is entered. `n` bounds the number of steps. -/
def tokensBetween : Nat → List Token → List Token → List Token
  | 0, _, _ => []
  | n + 1, start, stop =>
    if Token.weightOf start ≤ Token.weightOf stop then []
    else
      match start with
      | [] => []
      | t :: rest =>
        if Token.weightOf rest < Token.weightOf stop then
          match t with
          | .group .invisible inner _ => tokensBetween n (inner ++ rest) stop
          | _ => []
        else t :: tokensBetween n rest stop

/-- The tokens from a point up to here, as they were read. -/
def since (start : Cursor) : Parser (List Token) := do
  return tokensBetween (Token.weightOf start.rest + 1) start.rest (← get).rest

/-- The tokens from a point up to here, as pieces. -/
def sinceParts (start : Cursor) : Parser (List Part) := do return (← since start).map .token

/-- All tokens that are left. -/
def everything : Parser (List Token) := do
  let c ← get
  advance []
  return c.rest

/-! ## 4. Repetition -/

/-- Repeats `step` until it answers nothing; `n` bounds the number of rounds. -/
def loopN {α : Type} (step : Parser (Option α)) : Nat → Parser (List α)
  | 0 => fail .tooDeep
  | n + 1 => do
    match ← step with
    | some a => return a :: (← loopN step n)
    | none => return []

/-- Repeats `step` until it answers nothing. Every round has to take a token. -/
def loop {α : Type} (step : Parser (Option α)) : Parser (List α) := do
  loopN step (Token.weightOf (← get).rest + 1)

/-- Repeats `step` on a value until it answers nothing; `n` bounds the number of rounds. -/
def iterateN {α : Type} (step : α → Parser (Option α)) : Nat → α → Parser α
  | 0, _ => fail .tooDeep
  | n + 1, a => do
    match ← step a with
    | some b => iterateN step n b
    | none => return a

/-- Repeats `step` on a value until it answers nothing. Every round has to take a token. -/
def iterate {α : Type} (step : α → Parser (Option α)) (a : α) : Parser α := do
  iterateN step (Token.weightOf (← get).rest + 1) a

/-- Entries divided by an operator, until `stop` holds in front of an entry or behind one. Answers
the entries and whether the operator comes last; `n` bounds the number of entries. -/
def separatedN {α : Type} (sep : String) (stop : Parser Bool) (entry : Parser α) :
    Nat → Parser (List α × Bool)
  | 0 => fail .tooDeep
  | n + 1 => do
    if ← stop then return ([], true)
    let a ← entry
    if ← stop then return ([a], false)
    let _ ← op sep
    let (more, trailing) ← separatedN sep stop entry n
    return (a :: more, trailing)

/-- Entries divided by an operator, until `stop` holds in front of an entry or behind one. -/
def separated {α : Type} (sep : String) (stop : Parser Bool) (entry : Parser α) :
    Parser (List α × Bool) := do
  let (entries, trailing) ← separatedN sep stop entry (Token.weightOf (← get).rest + 2)
  return (entries, trailing && !entries.isEmpty)

/-- Entries divided by commas up to the end of the tokens. -/
def terminated {α : Type} (entry : Parser α) : Parser (List α × Bool) :=
  separated "," (peek Peek.atEnd) entry

/-- Entries as long as an operator follows, none if `stop` holds in front of one. Answers the
entries and whether the operator comes last; `n` bounds the number of entries. -/
def joinedN {α : Type} (sep : String) (stop : Peek) (entry : Parser α) :
    Nat → Parser (List α × Bool)
  | 0 => fail .tooDeep
  | n + 1 => do
    if ← peek stop then return ([], true)
    let a ← entry
    if ← peek (Peek.op sep) then
      let _ ← op sep
      let (more, trailing) ← joinedN sep stop entry n
      return (a :: more, trailing)
    else return ([a], false)

/-- Entries as long as an operator follows. -/
def joined {α : Type} (sep : String) (stop : Peek) (entry : Parser α) :
    Parser (List α × Bool) := do
  let (entries, trailing) ← joinedN sep stop entry (Token.weightOf (← get).rest + 2)
  return (entries, trailing && !entries.isEmpty)

end Parser

end Graft
