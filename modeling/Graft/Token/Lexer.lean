import Graft.Token.Basic
import Graft.Text.Identifier
import Graft.Text.Blank
import Graft.Text.Quoted

/-!
# Reading tokens

Source text to token trees. A scanner takes the characters that lie ahead and answers what is
left of them after one piece, or nothing if no such piece starts here.

* Sections 1 to 4: the extent of quoted literals, numbers and names, and of blanks and comments.
* Section 5: one token; a doc comment stands for a `doc` attribute.
* Section 6: `Token.lex`, the whole text. It fails on unbalanced delimiters, on an unclosed
  literal or comment, and on a character that starts no token.
-/

namespace Graft.Lexer

/-! ## 1. Names -/

/-- An identifier without `r#`. -/
def name? : List Char → Option (List Char)
  | c :: rest => if isIdentStart c then some (rest.dropWhile isIdentContinue) else none
  | [] => none

/-- What a scanner that left `rest` of `cs` went over. -/
def taken (cs rest : List Char) : List Char := cs.take (cs.length - rest.length)

/-- Names that have no raw form. -/
def neverRaw : List String := ["_", "super", "self", "Self", "crate"]

/-- An identifier, raw or not. -/
def anyName? : List Char → Option (List Char)
  | 'r' :: '#' :: cs => do
    let rest ← name? cs
    if neverRaw.contains (String.ofList (taken cs rest)) then none else some rest
  | cs => name? cs

/-- A literal may be followed directly by a name, its suffix. -/
def afterSuffix (cs : List Char) : List Char := (name? cs).getD cs

/-! ## 2. Quoted literals -/

/-- What a quoted literal may hold: any character, ASCII only, or anything but NUL. -/
inductive Flavor where
  | text
  | bytes
  | nulFree
deriving DecidableEq

/-- What a scanner of quoted text is in the middle of. -/
inductive Mode where
  | plain
  | afterReturn
  | escape
  | byteHigh
  | byteLow (high : Nat)
  | numberOpen
  | number (value digits : Nat)
  | continuation (afterReturn : Bool)

/-- Whether a character may stand for itself. -/
def Flavor.admits (f : Flavor) (c : Char) : Bool :=
  match f with
  | .text => true
  | .bytes => c.toNat < 0x80
  | .nulFree => c.toNat != 0

/-- Whether a number is a character. -/
def isScalar (n : Nat) : Bool := n < 0xd800 || (0xdfff < n && n < 0x110000)

/-- What follows a backslash. -/
def Flavor.escape (f : Flavor) (c : Char) : Option Mode :=
  match c with
  | 'x' => some .byteHigh
  | 'n' | 'r' | 't' | '\\' | '\'' | '"' => some .plain
  | '0' => if f == .nulFree then none else some .plain
  | 'u' => if f == .bytes then none else some .numberOpen
  | _ => none

/-- A character that is read where anything may stand but the closing quote. -/
def Flavor.plain (f : Flavor) (c : Char) : Option Mode :=
  if c == '\\' then some .escape
  else if c == '\r' then some .afterReturn
  else if f.admits c then some .plain
  else none

/-- The reader's mode after a character inside the quotes, if the character may stand there. -/
def Flavor.step (f : Flavor) : Mode → Char → Option Mode
  | .plain, c => f.plain c
  | .afterReturn, c => if c == '\n' then some .plain else none
  | .escape, c =>
    if c == '\n' then some (.continuation false)
    else if c == '\r' then some (.continuation true)
    else f.escape c
  | .byteHigh, c => do
    let d ← hexValue? c
    if f == .text && d > 7 then none else some (.byteLow d)
  | .byteLow high, c => do
    let d ← hexValue? c
    if f == .nulFree && high * 16 + d == 0 then none else some .plain
  | .numberOpen, c => if c == '\x7b' then some (.number 0 0) else none
  | .number value digits, c =>
    if c == '_' && digits > 0 then some (.number value digits)
    else if c == '\x7d' && digits > 0 then
      if isScalar value && !(f == .nulFree && value == 0) then some .plain else none
    else do
      let d ← hexValue? c
      if digits == 6 then none else some (.number (value * 16 + d) (digits + 1))
  | .continuation true, c => if c == '\n' then some (.continuation false) else none
  | .continuation false, c =>
    if c == ' ' || c == '\t' || c == '\n' then some (.continuation false)
    else if c == '\r' then some (.continuation true)
    else f.plain c

/-- Whether a double quote closes the text here. -/
def Mode.closable : Mode → Bool
  | .plain => true
  | .continuation false => true
  | _ => false

/-- The characters after an opening double quote, up to and with the closing one. -/
def cooked (f : Flavor) : Mode → List Char → Option (List Char)
  | _, [] => none
  | mode, c :: rest =>
    if c == '"' && mode.closable then some (afterSuffix rest)
    else
      match f.step mode c with
      | some next => cooked f next rest
      | none => none

/-- Whether as many `#` follow as `n` says. -/
def hashes (n : Nat) (cs : List Char) : Bool :=
  (cs.take n).length == n && (cs.take n).all (· == '#')

/-- The characters of a raw text, up to and with a double quote and `n` times `#`. -/
def rawBody (f : Flavor) (n : Nat) : List Char → Option (List Char)
  | [] => none
  | '\r' :: '\n' :: rest => rawBody f n rest
  | c :: rest =>
    if c == '"' && hashes n rest then some (afterSuffix (rest.drop n))
    else if c == '\r' || !f.admits c then none
    else rawBody f n rest

/-- A raw text from the `#`s before its opening quote on. -/
def raw (f : Flavor) (cs : List Char) : Option (List Char) :=
  let n := (cs.takeWhile (· == '#')).length
  match cs.drop n with
  | '"' :: rest => if n > 255 then none else rawBody f n rest
  | _ => none

/-- The end of a single-quoted literal. -/
def closeQuote : List Char → Option (List Char)
  | '\'' :: rest => some (afterSuffix rest)
  | _ => none

/-- The digits and the closing brace of a character given by number. -/
def numberEscape (value digits : Nat) : List Char → Option (List Char)
  | [] => none
  | c :: rest =>
    match Flavor.text.step (.number value digits) c with
    | some (.number value digits) => numberEscape value digits rest
    | some _ => some rest
    | none => none

/-- One escape after its backslash, of a single-quoted literal. -/
def singleEscape (f : Flavor) : List Char → Option (List Char)
  | 'x' :: a :: b :: rest =>
    match f.step .byteHigh a with
    | some mode => if (f.step mode b).isSome then some rest else none
    | none => none
  | 'u' :: '\x7b' :: rest => if f == .bytes then none else numberEscape 0 0 rest
  | c :: rest => match f.escape c with
    | some .plain => some rest
    | _ => none
  | [] => none

/-- One character and the closing single quote. -/
def singleQuoted (f : Flavor) : List Char → Option (List Char)
  | '\\' :: rest => (singleEscape f rest).bind closeQuote
  | c :: rest => if f.admits c then closeQuote rest else none
  | [] => none

/-- A quoted literal of any kind. -/
def quoted? : List Char → Option (List Char)
  | '"' :: rest => cooked .text .plain rest
  | 'r' :: rest => raw .text rest
  | 'b' :: '"' :: rest => cooked .bytes .plain rest
  | 'b' :: 'r' :: rest => raw .bytes rest
  | 'c' :: '"' :: rest => cooked .nulFree .plain rest
  | 'c' :: 'r' :: rest => raw .nulFree rest
  | 'b' :: '\'' :: rest => singleQuoted .bytes rest
  | '\'' :: rest => singleQuoted .text rest
  | _ => none

/-! ## 3. Numbers -/

/-- A digit or an underscore. -/
def isDigitOrMark (c : Char) : Bool := c.isDigit || c == '_'

/-- The exponent after its `e`: what is left, and whether there was a digit. Nothing if a second
sign comes before any digit. -/
def exponent (sign value : Bool) : List Char → Option (List Char × Bool)
  | [] => some ([], value)
  | c :: rest =>
    if c == '+' || c == '-' then
      if value then some (c :: rest, value)
      else if sign then none
      else exponent true value rest
    else if c.isDigit then exponent sign true rest
    else if c == '_' then exponent sign value rest
    else some (c :: rest, value)

/-- An exponent, or the end of the number before it if it has no digits. -/
def exponentOr (before : Option (List Char)) (cs : List Char) : Option (List Char) :=
  match exponent false false cs with
  | some (rest, true) => some rest
  | _ => before

/-- Whether a point is not that of a number: a second one or a name follows it. -/
def pointTaken : List Char → Bool
  | c :: _ => c == '.' || isIdentStart c
  | [] => false

/-- The digits of a number that has a point or an exponent. -/
def floatDigits : List Char → Option (List Char)
  | c :: rest =>
    if c.isDigit then
      match rest.dropWhile isDigitOrMark with
      | '.' :: rest =>
        if pointTaken rest then none
        else
          match rest.dropWhile isDigitOrMark with
          | 'e' :: after => exponentOr (some ('e' :: after)) after
          | 'E' :: after => exponentOr (some ('E' :: after)) after
          | rest => some rest
      | 'e' :: after => exponentOr none after
      | 'E' :: after => exponentOr none after
      | _ => none
    else none
  | [] => none

/-- The digits of a whole number to a base; `empty` until there was one. -/
def wholeDigits (base : Nat) (empty : Bool) : List Char → Option (List Char)
  | [] => if empty then none else some []
  | c :: rest =>
    if c == '_' then
      if empty && base == 10 then none else wholeDigits base empty rest
    else
      match hexValue? c with
      | some d =>
        if d < base then wholeDigits base false rest
        else if c.isDigit then none
        else if empty then none else some (c :: rest)
      | none => if empty then none else some (c :: rest)

/-- A whole number with its base. -/
def intDigits : List Char → Option (List Char)
  | '0' :: 'x' :: rest => wholeDigits 16 true rest
  | '0' :: 'o' :: rest => wholeDigits 8 true rest
  | '0' :: 'b' :: rest => wholeDigits 2 true rest
  | cs => wholeDigits 10 true cs

/-- The end of a number: a suffix if there is one, and no other name character after it. -/
def numberEnd (cs : List Char) : Option (List Char) :=
  match afterSuffix cs with
  | c :: rest => if isIdentContinue c then none else some (c :: rest)
  | [] => some []

/-- A whole or fractional number. -/
def number? (cs : List Char) : Option (List Char) :=
  ((floatDigits cs).bind numberEnd).orElse fun _ => (intDigits cs).bind numberEnd

/-! ## 4. Blanks and comments -/

/-- A comment between `/*` and `*/`, which may hold others; `depth` are open already. -/
def blockComment : Nat → List Char → Option (List Char)
  | depth, '/' :: '*' :: rest => blockComment (depth + 1) rest
  | depth, '*' :: '/' :: rest => if depth ≤ 1 then some rest else blockComment (depth - 1) rest
  | depth, _ :: rest => blockComment depth rest
  | _, [] => none

/-- The rest of a line: its characters, and what is left from the line feed on. -/
def restOfLine : List Char → List Char × List Char
  | [] => ([], [])
  | '\n' :: rest => ([], '\n' :: rest)
  | '\r' :: '\n' :: rest => ([], '\n' :: rest)
  | c :: rest => let (line, left) := restOfLine rest; (c :: line, left)

/-- Characters skipped between tokens: white space and the two marks of direction. -/
def isSkipped (c : Char) : Bool :=
  if c.toNat < 0x80 then c == ' ' || (0x9 ≤ c.toNat && c.toNat ≤ 0xc)
  else isBlank c || c.toNat == 0x200e || c.toNat == 0x200f

/-- A comment that is not a doc comment. -/
def plainComment? : List Char → Option (List Char)
  | '/' :: '/' :: '/' :: '/' :: rest => some (restOfLine rest).2
  | '/' :: '/' :: '/' :: _ => none
  | '/' :: '/' :: '!' :: _ => none
  | '/' :: '/' :: rest => some (restOfLine rest).2
  | '/' :: '*' :: '*' :: '/' :: rest => some rest
  | '/' :: '*' :: '*' :: '*' :: rest => blockComment 1 ('*' :: '*' :: rest)
  | '/' :: '*' :: '*' :: _ => none
  | '/' :: '*' :: '!' :: _ => none
  | '/' :: '*' :: rest => blockComment 1 rest
  | _ => none

/-- What is left after white space and comments; `n` bounds the number of steps. -/
def skipBlanks : Nat → List Char → List Char
  | 0, cs => cs
  | n + 1, cs =>
    match plainComment? cs with
    | some rest => skipBlanks n rest
    | none =>
      match cs with
      | '\r' :: '\n' :: rest => skipBlanks n rest
      | c :: rest => if isSkipped c then skipBlanks n rest else c :: rest
      | [] => []

/-- A doc comment: its text, whether it speaks of what encloses it, and what is left. -/
def docComment? (cs : List Char) : Option (List Char × Bool × List Char) :=
  match cs with
  | '/' :: '/' :: '!' :: rest => let (line, left) := restOfLine rest; some (line, true, left)
  | '/' :: '*' :: '!' :: _ => blockText true
  | '/' :: '/' :: '/' :: '/' :: _ => none
  | '/' :: '/' :: '/' :: rest => let (line, left) := restOfLine rest; some (line, false, left)
  | '/' :: '*' :: '*' :: '*' :: _ => none
  | '/' :: '*' :: '*' :: _ => blockText false
  | _ => none
where
  /-- The text between the three characters that open a block and the two that close it. -/
  blockText (inner : Bool) : Option (List Char × Bool × List Char) := do
    let rest ← blockComment 0 cs
    let all := taken cs rest
    some ((all.drop 3).take (all.length - 5), inner, rest)

/-- Whether every carriage return is followed by a line feed. -/
def returnsPaired : List Char → Bool
  | [] => true
  | '\r' :: '\n' :: rest => returnsPaired rest
  | '\r' :: _ => false
  | _ :: rest => returnsPaired rest

/-! ## 5. One token -/

/-- The characters that are tokens of their own. -/
def punctuation : List Char := "~!@#$%^&*-=+|;:,<.>/?'".toList

/-- A punctuation character that does not start a comment. -/
def punctChar? : List Char → Option (Char × List Char)
  | '/' :: '/' :: _ => none
  | '/' :: '*' :: _ => none
  | c :: rest => if punctuation.contains c then some (c, rest) else none
  | [] => none

/-- A punctuation character. It is joint if another one follows directly; an apostrophe is that of
a lifetime, whose name must follow. -/
def punct? (cs : List Char) : Option (Token × List Char) := do
  let (c, rest) ← punctChar? cs
  if c == '\'' then
    match ← anyName? rest with
    | '\'' :: _ => none
    | '#' :: _ => if rest.take 2 == ['r', '#'] then some () else none
    | _ => some ()
    some (.punct c .joint .callSite, rest)
  else some (.punct c (if (punctChar? rest).isSome then .joint else .alone) .callSite, rest)

/-- Beginnings of literals, which are not those of names. -/
def literalStarts : List (List Char) :=
  ["r\"", "r#\"", "r##", "b\"", "b'", "br\"", "br#", "c\"", "cr\"", "cr#"].map String.toList

/-- The text a compiler leaves where an expansion failed; it is read as one literal. -/
def failedExpansion : List Char := "(/*ERROR*/)".toList

/-- A literal, a punctuation character or an identifier, and what is left. -/
def leaf? (cs : List Char) : Option (Token × List Char) :=
  match (quoted? cs).orElse fun _ => number? cs with
  | some rest => some (.literal (String.ofList (taken cs rest)) .callSite, rest)
  | none =>
    match punct? cs with
    | some found => some found
    | none =>
      if literalStarts.any (·.isPrefixOf cs) then none
      else
        match anyName? cs with
        | some rest => some (.ident ⟨String.ofList (taken cs rest), .callSite⟩, rest)
        | none =>
          if failedExpansion.isPrefixOf cs then
            some (.literal (String.ofList failedExpansion) .callSite,
              cs.drop failedExpansion.length)
          else none

/-- The attribute that a doc comment stands for. -/
def docTokens (text : List Char) (inner : Bool) (span : Span) : List Token :=
  [.punct '#' .alone span] ++ (if inner then [.punct '!' .alone span] else []) ++
    [.group .bracket
      [.ident ⟨"doc", span⟩, .punct '=' .alone span,
        .literal (Quoted.literal (String.ofList text)) span] span]

/-! ## 6. The whole text -/

/-- The group that an opening delimiter starts. -/
def opens (cs : List Char) : Option Delimiter :=
  match cs with
  | '(' :: _ => if failedExpansion.isPrefixOf cs then none else some .paren
  | '[' :: _ => some .bracket
  | '\x7b' :: _ => some .brace
  | _ => none

/-- The group that a closing delimiter ends. -/
def closes : List Char → Option Delimiter
  | ')' :: _ => some .paren
  | ']' :: _ => some .bracket
  | '\x7d' :: _ => some .brace
  | _ => none

/-- A group that is open: its delimiter, where it starts, and the tokens before it, last first. -/
structure Frame where
  delim : Delimiter
  start : Nat
  before : List Token

/-- Reads tokens until the text ends. `total` is the length of the whole text, `acc` holds the
tokens of the innermost open group, last first, and `n` bounds the number of steps. -/
def loop (source : String) (total : Nat) :
    Nat → List Frame → List Token → List Char → Option (List Token)
  | 0, _, _, _ => none
  | n + 1, stack, acc, input =>
    let cs := skipBlanks input.length input
    let here := total - cs.length
    let upTo (rest : List Char) : Span := .range source here (total - rest.length)
    match docComment? cs with
    | some (text, inner, rest) =>
      if returnsPaired text then
        loop source total n stack ((docTokens text inner (upTo rest)).reverse ++ acc) rest
      else none
    | none =>
      match cs with
      | [] => if stack.isEmpty then some acc.reverse else none
      | _ :: rest =>
        match opens cs, closes cs, stack with
        | some d, _, _ => loop source total n (⟨d, here, acc⟩ :: stack) [] rest
        | none, some d, frame :: below =>
          if frame.delim == d then
            let span := Span.range source frame.start (total - rest.length)
            loop source total n below (.group d acc.reverse span :: frame.before) rest
          else none
        | none, some _, [] => none
        | none, none, _ =>
          match leaf? cs with
          | some (token, rest) =>
            loop source total n stack (token.withSpan (upTo rest) :: acc) rest
          | none => none

/-- A byte order mark at the start of a text is not part of it. -/
def withoutMark : List Char → List Char
  | c :: rest => if c.toNat == 0xfeff then rest else c :: rest
  | [] => []

end Graft.Lexer

namespace Graft

/-- The tokens of a text; `source` names the text in their positions. -/
def Token.lex? (source text : String) : Option (List Token) :=
  let all := text.toList
  Lexer.loop source all.length (all.length + 1) [] [] (Lexer.withoutMark all)

mutual

/-- Source text has no spelling for an invisible group: `none_group!(..)` stands for one. -/
def Token.hideGroups : List Token → List Token
  | [] => []
  | .ident i :: .punct '!' s p :: .group d inner span :: rest =>
    if i.text == "none_group" then
      .group .invisible (Token.hideGroups inner) span :: Token.hideGroups rest
    else
      .ident i :: .punct '!' s p :: .group d (Token.hideGroups inner) span ::
        Token.hideGroups rest
  | t :: rest => t.hideInner :: Token.hideGroups rest

/-- The same inside a group. -/
def Token.hideInner : Token → Token
  | .group d inner span => .group d (Token.hideGroups inner) span
  | t => t

end

end Graft
