import Graft.Transform.Basic
import Graft.Url.Parser

/-!
# Transforms of expressions and texts

* `pairWithText`: an expression together with its own text.
* `validateUrl`: a URL that is checked while expanding.
* `emitWarning`: a warning that the source asks for. It is reported, and a use of something
  deprecated stands in its place, which compilers report too.
-/

namespace Graft.Transform

/-- The pair of an expression and its text. -/
def pairTokens (e : Expr) : List Token :=
  [parens (e.tokens ++ operator "," ++ [quotedToken (Token.render e.tokens)])]

/-- The pair of the only argument and its text. -/
def pairWithText (r : Request) : Except Diagnostic Reply := do
  let e ← r.single .notOneExpression
  return .just (.expression (pairTokens e))

/-- The expression that reads a URL which is known to be one. -/
def urlTokens (text : String) : List Token :=
  code ":: playtomic :: __private :: Url :: parse" ++ [parens [quotedToken text]] ++
    code ". unwrap_or_else" ++
    [parens (code "| _ | :: core :: unreachable !" ++
      [parens [quotedToken "url checked while compiling"]])]

/-- A URL, if the only argument is the text of one. -/
def validateUrl (r : Request) : Except Diagnostic Reply := do
  r.needStd
  let e ← r.single .urlNotLiteral
  let text ← staticText e .urlNotLiteral
  match Url.check text.toList with
  | some cause => throw (.on e.tokens (.malformedUrl text cause))
  | none => return .just (.expression (urlTokens text))

/-- The use of a deprecated constant whose note is the text. -/
def deprecatedUse (text : String) : List Token :=
  code "const _ :" ++ [parens []] ++ operator "=" ++
    [braces
      ((Attribute.new "deprecated" [parens (code "note =" ++ [quotedToken text])]).render ++
        (Attribute.new "allow" [parens (code "non_upper_case_globals")]).render ++
        code "const warning :" ++ [parens []] ++ operator "=" ++ [parens []] ++
        code "; warning")] ++
    operator ";"

/-- A warning whose text is the only argument. -/
def emitWarning (r : Request) : Except Diagnostic Reply := do
  let e ← r.single .warningNotLiteral
  let text ← staticText e .warningNotLiteral
  return { addition := .declarations [deprecatedUse text]
           notes := [.on e.tokens (.warning text)] }

end Graft.Transform
