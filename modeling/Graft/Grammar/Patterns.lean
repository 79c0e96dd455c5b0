import Graft.Grammar.Types

/-!
# Patterns

A pattern that is a plain name is told apart from all others, since a parameter may keep its name
when it is passed on. `pattern` reads one pattern, `alternatives` several with `|` between them.
-/

namespace Graft.Grammar

open Graft.Parser

/-- The middle of a range, and whether its end may be missing. Three dots are written `..=`. -/
def rangeLimits : Parser (List Part × Bool) := do
  if ← peek (Peek.op "..=") then return (← opParts "..=", false)
  else if ← peek (Peek.op "...") then
    let dots ← op "..."
    return ((opTokens ['.', '.', '='] (dots.map Token.span)).map .token, false)
  else if ← peek (Peek.op "..") then return (← opParts "..", true)
  else expected [.symbol "..=", .symbol "...", .symbol ".."]

/-- A constant block, as it was read. -/
def constBlock (r : Rules) : Parser (List Part) := do
  let start ← get
  let _ ← keyword "const"
  let _ ← body r true
  sinceParts start

/-- The pieces of a path, perhaps one that starts from a type. -/
def pathParts (start : PathStart) (segments : List Segment) : List Part :=
  match start with
  | .plain leading => [.path (.mk leading segments)]
  | .qualified lt self trait gt colons => qualifiedParts lt self trait gt colons segments

/-- What ends a range in a pattern. -/
def endsPatternRange : Peek := fun ts =>
  Peek.atEnd ts || Peek.op "|" ts || Peek.op "=" ts || Peek.colon ts || Peek.op "," ts ||
    Peek.op ";" ts

/-- A literal, a path or a constant block as one end of a range, and whether it is such a block;
nothing if the range ends here. -/
def rangeEnd (r : Rules) : Parser (Option (List Part × Bool)) := do
  if ← peek endsPatternRange then return none
  let neg ← if ← peek (Peek.op "-") then opParts "-" else pure []
  if ← peekLit then return some (neg ++ [.expr (← lit)], false)
  else if ← peek (fun ts => peekSegment ts || Peek.op "::" ts || Peek.op "<" ts) then
    let (start, segments) ← anyPath r true
    return some (neg ++ pathParts start segments, false)
  else if ← peek (Peek.word "const") then return some (neg ++ (← constBlock r), true)
  else
    expected [.kind "literal", .kind "identifier", .symbol "::", .symbol "<", .symbol "self",
      .symbol "Self", .symbol "super", .symbol "crate", .symbol "const"]

/-- A literal, perhaps as the beginning of a range. -/
def litOrRange (r : Rules) : Parser (List Part) := do
  let start ← get
  match ← rangeEnd r with
  | none => expectedKind "literal"
  | some (lo, _) =>
    if ← peek (Peek.op "..") then
      let (limits, _) ← rangeLimits
      match ← rangeEnd r with
      | some (hi, _) => return lo ++ limits ++ hi
      | none => sinceParts start
    else return lo

/-- A pattern, or several with `|` between them; `leading` allows one in front. -/
def alternatives (r : Rules) (leading : Bool) : Parser Pat := do
  let vert ← if leading && (← peek (Peek.op "|")) then some <$> opParts "|" else pure none
  let first ← r.pat
  let bar : Peek := fun ts => Peek.op "|" ts && !Peek.op "||" ts && !Peek.op "|=" ts
  let more ← loop do
    if ← peek bar then
      let b ← opParts "|"
      return some (b ++ (← r.pat).parts)
    else return none
  if vert.isNone && more.isEmpty then return first
  else return .other (vert.getD [] ++ first.parts ++ more.flatten)

/-- Patterns divided by commas, between delimiters. -/
def patternGroup (r : Rules) (d : Delimiter) : Parser Part :=
  groupPart d do
    let (pats, trailing) ← terminated (alternatives r true)
    return Part.punctuated "," trailing (pats.map Pat.parts)

/-- The number of a field without a name, as it is written. -/
def indexToken (t : Token) (digits : String) : Token := .literal digits t.span

/-- A field of a struct, by name or by number, and whether it has a name. -/
def member : Parser (Part × Bool) := do
  if ← peek Peek.name then return (.token (.ident (← name)), true)
  match litAhead (← get).rest with
  | .token t (.int digits suffix) rest =>
    if suffix == "" then
      advance rest
      return (.token (indexToken t digits), false)
    else fail (.rule t.span "expected unsuffixed integer")
  | .unknown text => fail (.unknownLiteral text)
  | _ => expectedKind "identifier or integer"

/-- A field of a struct pattern. -/
def fieldPattern (r : Rules) : Parser (List Part) := do
  let boxed ← keywordParts? "box"
  let byRef ← keywordParts? "ref"
  let mutable ← keywordParts? "mut"
  let marks := boxed ++ byRef ++ mutable
  let (m, named) ← if marks.isEmpty then member else pure (Part.token (.ident (← name)), true)
  if (marks.isEmpty && (← peek (Peek.op ":"))) || !named then
    let colon ← opParts ":"
    return [m] ++ colon ++ (← alternatives r true).parts
  else return marks ++ [m]

/-- The fields of a struct pattern, between braces. Answers also whether a `..` has attributes. -/
def fieldPatterns (r : Rules) : Parser (Part × Bool) := do
  let ((parts, odd), span) ← within .brace (do
    let fields ← loop do
      if ← peek Peek.atEnd then return none
      if ← succeeds (do let _ ← outerAttributes; op "..") then return none
      let attrs ← outerAttributes
      let field ← fieldPattern r
      let comma ← if ← peek Peek.atEnd then pure [] else opParts ","
      return some (outerParts attrs ++ field ++ comma)
    if ← peek Peek.atEnd then return (fields.flatten, false)
    let attrs ← outerAttributes
    let dots ← opParts ".."
    return (fields.flatten ++ outerParts attrs ++ dots, !attrs.isEmpty))
  return (.group .brace span parts, odd)

/-- A pattern that starts with a path. -/
def pathPattern (r : Rules) : Parser (List Part) := do
  let start ← get
  let (begin_, segments) ← anyPath r true
  let qualified := match begin_ with
    | .qualified .. => true
    | .plain _ => false
  let p : Path := .mk none segments
  if !qualified && p.plain && (← peek peekBang) then
    match begin_ with
    | .plain leading => return [.call (← macroCall (Path.mk leading segments).names)]
    | _ => return []
  if ← peek (Peek.group .brace) then
    let (fields, odd) ← fieldPatterns r
    if qualified || odd then sinceParts start else return pathParts begin_ segments ++ [fields]
  else if ← peek (Peek.group .paren) then
    let inner ← patternGroup r .paren
    if qualified then sinceParts start else return pathParts begin_ segments ++ [inner]
  else if ← peek (Peek.op "..") then
    let (limits, _) ← rangeLimits
    match ← rangeEnd r with
    | some (hi, _) => return pathParts begin_ segments ++ limits ++ hi
    | none => sinceParts start
  else return pathParts begin_ segments

/-- A pattern that starts with two dots: a range without a beginning, or the rest. -/
def dotsPattern (r : Rules) : Parser (List Part) := do
  let start ← get
  let (limits, halfOpen) ← rangeLimits
  match ← rangeEnd r with
  | some _ => sinceParts start
  | none => if halfOpen then return limits else expectedKind "range upper bound"

/-- Whether a name is followed by a range that has an end. -/
def nameThenRange : Parser Bool := do
  if ← peek (fun ts => Peek.name ts && Peek.second (Peek.op "..") ts) then
    succeeds do
      let _ ← name
      let _ ← rangeLimits
      if ← peek (Peek.or Peek.atEnd (Peek.op ",")) then expected []
  else return false

/-- Whether a pattern starts with a path rather than a name. -/
def peekPathPattern : Peek := fun ts =>
  (Peek.name ts && Peek.second (fun us => Peek.op "::" us || Peek.op "!" us ||
      Peek.group .brace us || Peek.group .paren us) ts) ||
    (Peek.word "self" ts && Peek.second (Peek.op "::") ts) ||
    Peek.op "::" ts || Peek.op "<" ts || Peek.word "Self" ts || Peek.word "super" ts ||
    Peek.word "crate" ts

/-- A name as a pattern. -/
def namePattern (r : Rules) : Parser Pat := do
  let byRef ← keyword? "ref"
  let mutable ← keyword? "mut"
  let i ← anyWord
  if ← peek (Peek.op "@") then
    let _ ← op "@"
    return .name byRef mutable i (some (← r.pat).parts)
  else return .name byRef mutable i none

/-- A pattern without alternatives. -/
def pattern (r : Rules) : Parser Pat := do
  if (← peek peekPathPattern) || (← nameThenRange) then return .other (← pathPattern r)
  else if ← peek (Peek.word "_") then return .other [← keywordPart "_"]
  else if ← peek (Peek.word "box") then
    let word ← keywordPart "box"
    return .other (word :: (← r.pat).parts)
  else if (← peek (Peek.op "-")) || (← peekLit) || (← peek (Peek.word "const")) then
    return .other (← litOrRange r)
  else if ← peek (fun ts => Peek.word "ref" ts || Peek.word "mut" ts || Peek.word "self" ts ||
      Peek.name ts) then
    namePattern r
  else if ← peek (Peek.op "&") then
    let amp ← opParts "&"
    let mutable ← keywordParts? "mut"
    return .other (amp ++ mutable ++ (← r.pat).parts)
  else if ← peek (Peek.group .paren) then return .other [← patternGroup r .paren]
  else if ← peek (Peek.group .bracket) then return .other [← patternGroup r .bracket]
  else if ← peek (fun ts => Peek.op ".." ts && !Peek.op "..." ts) then
    return .other (← dotsPattern r)
  else
    expected [.symbol "::", .symbol "<", .symbol "_", .kind "literal", .symbol "const",
      .symbol "ref", .symbol "mut", .symbol "&", .kind "parentheses", .kind "square brackets",
      .symbol ".."]

end Graft.Grammar
