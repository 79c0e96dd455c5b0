/-!
# Tokens

Source text is a list of token trees: identifiers, single punctuation characters, literals, and
groups of tokens between delimiters. Every token knows where it stands.

* `Span`: a range of characters of a named text, or the call site.
* `Token`: the token trees; `Token.atoms` flattens them and forgets positions, so two lists of
  tokens are the same up to positions iff their atoms are equal.
* `Token.render`: the text of a list of tokens, with one blank between neighbours except after a
  joint punctuation character.
* `code`, `operator`, `parens` and the like: tokens made up here, which all stand at the call site.
-/

namespace Graft

/-! ## 1. Positions -/

/-- Where something stands: characters `start` to `stop` of the text named `source`, or the place
of the whole invocation. -/
inductive Span where
  | callSite
  | range (source : String) (start stop : Nat)
deriving DecidableEq, Repr, Inhabited

/-- The first character of a range: the opening delimiter of a group. -/
def Span.first : Span → Span
  | .callSite => .callSite
  | .range source start stop => .range source start (min (start + 1) stop)

/-- The last character of a range: the closing delimiter of a group. -/
def Span.last : Span → Span
  | .callSite => .callSite
  | .range source start stop => .range source (max (stop - 1) start) stop

/-- The range from one place to another. -/
def Span.upTo : Span → Span → Span
  | .range a s e, .range b s' e' => if a == b then .range a (min s s') (max e e') else .range a s e
  | s, _ => s

/-! ## 2. Token trees -/

/-- What encloses a group. An `invisible` group keeps its tokens together without being written. -/
inductive Delimiter where
  | paren
  | bracket
  | brace
  | invisible
deriving DecidableEq, Repr, Inhabited

/-- The text of a group around the text of its contents; braces stand apart from them. -/
def Delimiter.wrap (empty : Bool) (inner : String) : Delimiter → String
  | .paren => "(" ++ inner ++ ")"
  | .bracket => "[" ++ inner ++ "]"
  | .brace => if empty then "\x7b \x7d" else "\x7b " ++ inner ++ " \x7d"
  | .invisible => inner

/-- Whether a punctuation character is read together with the one after it. -/
inductive Spacing where
  | alone
  | joint
deriving DecidableEq, Repr, Inhabited

/-- An identifier or keyword. A raw identifier keeps its `r#`, so `r#type` differs from `type`. -/
structure Ident where
  text : String
  span : Span
deriving DecidableEq, Repr, Inhabited

/-- A token tree. -/
inductive Token where
  | ident (i : Ident)
  | punct (char : Char) (spacing : Spacing) (span : Span)
  | literal (text : String) (span : Span)
  | group (delim : Delimiter) (inner : List Token) (span : Span)
deriving Repr, Inhabited

namespace Ident

/-- The characters of an identifier without a leading `r#`. -/
def unrawChars : List Char → List Char
  | 'r' :: '#' :: rest => rest
  | cs => cs

/-- The name without a leading `r#`. -/
def unraw (i : Ident) : String := String.ofList (unrawChars i.text.toList)

/-- Two identifiers are the same if they are spelled alike, `r#` included. -/
def same (a b : Ident) : Bool := a.text == b.text

/-- An identifier made up at the call site. -/
def new (text : String) : Ident := ⟨text, .callSite⟩

end Ident

namespace Token

/-- Where a token tree stands; a group reaches from its opening to its closing delimiter. -/
def span : Token → Span
  | .ident i => i.span
  | .punct _ _ s => s
  | .literal _ s => s
  | .group _ _ s => s

/-- The same token at another place. -/
def withSpan (s : Span) : Token → Token
  | .ident i => .ident { i with span := s }
  | .punct c sp _ => .punct c sp s
  | .literal t _ => .literal t s
  | .group d inner _ => .group d inner s

/-! ## 3. Equality up to positions -/

/-- The pieces of a flattened token tree. -/
inductive Atom where
  | ident (text : String)
  | punct (char : Char) (spacing : Spacing)
  | literal (text : String)
  | opening (delim : Delimiter)
  | closing (delim : Delimiter)
deriving DecidableEq, Repr

mutual

/-- The pieces of a token tree in order, without their positions. -/
def atoms : Token → List Atom
  | .ident i => [.ident i.text]
  | .punct c s _ => [.punct c s]
  | .literal t _ => [.literal t]
  | .group d inner _ => .opening d :: (atomsOf inner ++ [.closing d])

/-- The pieces of a list of token trees. -/
def atomsOf : List Token → List Atom
  | [] => []
  | t :: rest => t.atoms ++ atomsOf rest

end

/-- Whether two lists of tokens differ in positions at most. -/
def sameList (a b : List Token) : Bool := atomsOf a == atomsOf b

mutual

/-- How many token trees a tree consists of, itself included. -/
def weight : Token → Nat
  | .group _ inner _ => weightOf inner + 1
  | _ => 1

/-- How many token trees a list consists of, at any depth. -/
def weightOf : List Token → Nat
  | [] => 0
  | t :: rest => t.weight + weightOf rest

end

/-! ## 4. Text -/

/-- What stands between a token and its successor: nothing after a joint character, else a
blank. -/
def gap : Token → String
  | .punct _ .joint _ => ""
  | _ => " "

mutual

/-- The text of one token tree. -/
def text : Token → String
  | .ident i => i.text
  | .punct c _ _ => String.singleton c
  | .literal t _ => t
  | .group d inner _ => d.wrap inner.isEmpty (render inner)

/-- The text of a list of tokens. -/
def render : List Token → String
  | [] => ""
  | [t] => t.text
  | t :: next :: rest => t.text ++ t.gap ++ render (next :: rest)

end

end Token

/-! ## 5. Tokens made up here -/

/-- An operator of one or more characters, each but the last joint to the next. -/
def operatorAt (span : Span) : List Char → List Token
  | [] => []
  | [c] => [.punct c .alone span]
  | c :: rest => .punct c .joint span :: operatorAt span rest

/-- An operator made up at the call site. -/
def operator (text : String) : List Token := operatorAt .callSite text.toList

/-- An identifier or keyword made up at the call site. -/
def word (text : String) : Token := .ident (Ident.new text)

/-- The pieces of a text between its blanks. -/
def piecesOf : List Char → List (List Char)
  | [] => [[]]
  | c :: rest =>
    match piecesOf rest with
    | piece :: more => if c == ' ' then [] :: piece :: more else (c :: piece) :: more
    | [] => [[c]]

/-- Code written out as words and operators that are divided by blanks. -/
def code (text : String) : List Token :=
  (piecesOf text.toList).flatMap fun piece =>
    match piece with
    | [] => []
    | c :: _ =>
      if c == '_' || c.isAlphanum then [word (String.ofList piece)] else operatorAt .callSite piece

/-- Tokens between parentheses. -/
def parens (inner : List Token) : Token := .group .paren inner .callSite

/-- Tokens between braces. -/
def braces (inner : List Token) : Token := .group .brace inner .callSite

/-- Tokens between brackets. -/
def brackets (inner : List Token) : Token := .group .bracket inner .callSite

/-- Lists of tokens with a comma between neighbours. -/
def commaSeparated : List (List Token) → List Token
  | [] => []
  | [ts] => ts
  | ts :: rest => ts ++ operator "," ++ commaSeparated rest

end Graft
