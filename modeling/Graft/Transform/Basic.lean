import Graft.Argument
import Graft.Template
import Graft.Method

/-!
# Transforms

A transform reads a `Request` (where it was attached or invoked, and with which arguments) and
answers a `Reply`: what to add there, and what to report. If it cannot, it answers the one
diagnostic that says why.

Where an addition goes is told by its form and by the `Placement` of the transform.
-/

namespace Graft

/-- Where the addition of a transform goes. -/
inductive Placement where
  /-- An invocation is replaced by an expression. -/
  | expression
  /-- An invocation is replaced by declarations. -/
  | declaration
  /-- Next to the item. -/
  | peer
  /-- Into an implementation of the declared type. -/
  | member
  /-- Onto the fields of the declared type. -/
  | memberAttribute
  /-- In the place of a property's declaration. -/
  | accessor
  /-- In front of the declared type. -/
  | extension
deriving DecidableEq, Repr, Inhabited

/-- The name of a placement. -/
def Placement.text : Placement → String
  | .expression => "Expression"
  | .declaration => "Declaration"
  | .peer => "Peer"
  | .member => "Member"
  | .memberAttribute => "MemberAttribute"
  | .accessor => "Accessor"
  | .extension => "Extension"

/-- The placement of a name. -/
def Placement.ofText? (text : String) : Option Placement :=
  [Placement.expression, .declaration, .peer, .member, .memberAttribute, .accessor,
    .extension].find? (·.text == text)

/-- What a transform is attached to. -/
inductive Site where
  | item (i : Item)
  | property (d : PropertyDecl)
  /-- Nothing: the transform was invoked by itself. -/
  | invocation
deriving Inhabited

/-- The tokens of a site. -/
def Site.tokens : Site → List Token
  | .item i => i.tokens
  | .property d => d.tokens
  | .invocation => []

/-- The item of a site. -/
def Site.item? : Site → Option Item
  | .item i => some i
  | _ => none

/-- What a transform adds. -/
inductive Addition where
  | nothing
  /-- An expression instead of the invocation. -/
  | expression (tokens : List Token)
  /-- Declarations, as members of the declared type or next to it. -/
  | declarations (decls : List (List Token))
  /-- A getter and a setter instead of a property's declaration. -/
  | accessors (getter setter : List Token)
  /-- A trait that the declared type derives. -/
  | conformance (path : Path)
  /-- The inside of an attribute for the fields with these numbers. -/
  | fieldAttribute (inside : List Token) (fields : List Nat)
deriving Inhabited

/-- What a transform is asked. -/
structure Request where
  site : Site
  arguments : Arguments
  /-- Whether generated code may use the standard library. -/
  std : Bool

/-- What a transform answers: an addition, and what it reports besides. -/
structure Reply where
  addition : Addition
  notes : List Diagnostic := []

/-- A reply without notes. -/
def Reply.just (a : Addition) : Reply := { addition := a }

namespace Request

/-- Fails unless generated code may use the standard library. -/
def needStd (r : Request) : Except Diagnostic Unit :=
  if r.std then .ok () else .error (.overall .requiresStd)

/-- The only argument. -/
def single (r : Request) (otherwise : Problem) : Except Diagnostic Expr :=
  match r.arguments.single? with
  | some e => .ok e
  | none => .error (.overall otherwise)

end Request

/-- The text of an expression without holes; without one, the problem is about the expression. -/
def staticText (e : Expr) (otherwise : Problem) : Except Diagnostic String :=
  match Template.unreadable? e with
  | some text => .error (.ofSyntax (.unknownLiteral text))
  | none =>
    match Template.static? e with
    | some text => .ok text
    | none => .error (.on e.tokens otherwise)

end Graft
