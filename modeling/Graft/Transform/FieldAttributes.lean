import Graft.Transform.Basic
import Graft.Token.Lexer

/-!
# An attribute for every field

Every stored field of a struct or union gains an attribute, whose inside is given as a text: a path,
and behind it nothing, one group, or `=` and any tokens.
-/

namespace Graft

open Graft.Parser in
/-- The inside of an attribute. -/
def attributeBody : Parser (List Token) := do
  let path ← Grammar.namePath
  let rest ← if ← peek Peek.atEnd then pure []
    else if ← peek (Peek.op "=") then
      let eq ← op "="
      pure (eq ++ (← everything))
    else
      match reveal (← get).rest with
      | .group d inner s :: after =>
        advance after
        pure [Token.group d inner s]
      | _ => expectedKind "group token"
  if ← peek Peek.atEnd then return path.tokens ++ rest
  else fail (.rule (spanAhead (← get)) "unexpected tokens after the attribute")

/-- The inside of an attribute that a text spells. -/
def attributeOfText (text : String) : Except AttributeFlaw (List Token) :=
  match Token.lex? "" text with
  | none => .error .unreadable
  | some ts =>
    match Graft.parse (fun _ => attributeBody) ts with
    | .ok body => .ok body
    | .error e => .error (.malformed e)

namespace Transform

/-- The numbers of the properties that each value stores. -/
def storedFields (o : Outline) : List Nat :=
  ((o.properties.mapIdx fun i p => (i, p)).filter fun (_, p) => p.isInstanceStored).map (·.1)

/-- The attribute for every field of the type that the transform is attached to. -/
def addFieldAttributes (r : Request) : Except Diagnostic Reply := do
  let e ← r.single (.attributeNotLiteral none)
  let text ← staticText e (.attributeNotLiteral none)
  match attributeOfText text with
  | .error flaw => throw (.on e.tokens (.attributeNotLiteral (some flaw)))
  | .ok inside =>
    match r.site.item? with
    | none => return .just .nothing
    | some i =>
      let o := i.outline
      if o.kind == .struct || o.kind == .union then
        match storedFields o with
        | [] => return .just .nothing
        | fields => return .just (.fieldAttribute inside fields)
      else return .just .nothing

end Transform

end Graft
