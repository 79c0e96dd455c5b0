import Graft.Token.Lexer
import Graft.Transform.Literals

/-!
# Constants

Values of expanded expressions: an expression paired with its text, and a URL that was put together
while expanding.
-/

namespace Graft.Showcase

/-- The expression that a text spells. -/
def expression? (text : String) : Option Expr :=
  (Token.lex? "constant" text).bind fun ts => (Expr.parse ts).toOption

/-- The expression `a + b * 1`, for given values of its variables. -/
def total (a b : Nat) : Nat := a + b * 1

/-- The value of this expression paired with its text, as the expanded pair holds them. -/
def paired (a b : Nat) : Option (Nat × String) :=
  (expression? "a+b*1").map fun e => (total a b, Token.render e.tokens)

/-- A URL put together from literals. -/
def assembled : String := "concat!(\"HTTPS://Example.com:443\", \"/a/../\", 'b', 1)"

/-- The text of the URL that an expression without holes spells. -/
def urlText? (source : String) : Option String := do
  let text ← Template.static? (← expression? source)
  let url ← (Url.read text.toList).toOption
  return String.ofList url.text

end Graft.Showcase
