import Graft.Diagnostic
import Graft.Grammar.Entry

/-!
# Argument lists

The arguments of an expansion: expressions with commas between them, each perhaps with a label in
front, `label = value`. No two arguments have the same label.

* `Arguments.read`: the arguments as they stand; `Arguments.parse`: the same, if no label is
  repeated.
* `Arguments.labeled` and `Arguments.single?`: the argument with a label, and the only argument.
-/

namespace Graft

/-- An argument, perhaps with a label. -/
structure Argument where
  label : Option Ident
  value : Expr
deriving Inhabited

/-- The tokens of an argument. The `=` behind a label is made up. -/
def Argument.tokens (a : Argument) : List Token :=
  (match a.label with
    | some l => .ident l :: operator "="
    | none => []) ++ a.value.tokens

/-- The arguments of an expansion, in order. -/
abbrev Arguments := List Argument

namespace Arguments

open Graft.Parser in
/-- One argument. A name is its label if a single `=` follows. -/
def argument (r : Rules) : Parser Argument := do
  if ← peek (fun ts => Peek.name ts && Peek.second (Peek.op "=") ts &&
      !Peek.second (Peek.op "==") ts) then
    let label ← name
    let _ ← op "="
    return ⟨some label, ← Grammar.expr r true⟩
  else return ⟨none, ← Grammar.expr r true⟩

/-- The arguments as they stand. -/
def read : List Token → Except SyntaxError Arguments :=
  Graft.parse fun r => (·.1) <$> Parser.terminated (argument r)

/-- The first label that repeats one of `seen` or one before it. -/
def repeated? (seen : List String) : Arguments → Option Ident
  | [] => none
  | a :: rest =>
    match a.label with
    | some l => if seen.contains l.text then some l else repeated? (l.text :: seen) rest
    | none => repeated? seen rest

/-- The arguments, if no label is repeated. -/
def parse (ts : List Token) : Except Diagnostic Arguments :=
  match read ts with
  | .error e => .error (.ofSyntax e)
  | .ok args =>
    match repeated? [] args with
    | some l => .error (.on [.ident l] (.duplicateArgument l.text))
    | none => .ok args

/-- Whether an argument has this label. -/
def hasLabel (label : String) (a : Argument) : Bool :=
  match a.label with
  | some l => l.text == label
  | none => false

/-- The value of the argument with a label. -/
def labeled (args : Arguments) (label : String) : Option Expr :=
  (args.find? (hasLabel label)).map (·.value)

/-- The value of the only argument, if it has no label. -/
def single? : Arguments → Option Expr
  | [⟨none, value⟩] => some value
  | _ => none

end Arguments

end Graft
