import Graft.Transform.Basic

/-!
# Deriving equality

A struct or enum gains a derived `PartialEq`, unless it derives one already. Which traits a type
derives is read off its `derive` attributes; one whose arguments are not paths names nothing.
-/

namespace Graft

open Graft.Parser in
/-- The paths that a `derive` attribute names: its only group, read as paths with commas between
them. An invisible group around it is looked through. -/
def Attribute.derivedPaths (a : Attribute) : List Path :=
  if a.path.isName "derive" then
    match reveal a.tokens with
    | [.group _ inner _] =>
      match Graft.parse (fun r => (·.1) <$> terminated (Grammar.path r false)) inner with
      | .ok paths => paths
      | .error _ => []
    | _ => []
  else []

/-- Whether the last segment of a path has this name. -/
def Path.endsIn (name : String) (p : Path) : Bool :=
  match p.last? with
  | some s => s.ident.text == name
  | none => false

/-- Whether attributes derive a trait of this name. -/
def derivesTrait (name : String) (attrs : List Attribute) : Bool :=
  attrs.any fun a => a.derivedPaths.any (Path.endsIn name)

/-- The path of the trait of comparable types. -/
def partialEqPath : Path :=
  .mk (some .callSite)
    [.mk (.new "core") .none, .mk (.new "cmp") .none, .mk (.new "PartialEq") .none]

namespace Transform

/-- The derived equality for the type that the transform is attached to. -/
def addEquality (r : Request) : Except Diagnostic Reply :=
  match r.site.item? with
  | none => .error (.overall .notComparable)
  | some i =>
    match i.outline.kind with
    | .struct | .enum =>
      if derivesTrait "PartialEq" i.outline.attrs then .ok (.just .nothing)
      else .ok (.just (.conformance partialEqPath))
    | .union => .error (.overall .unionNotComparable)
    | .other => .error (.overall .notComparable)

end Transform

end Graft
