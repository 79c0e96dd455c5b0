import Graft.Transform.Basic
import Graft.Text.SnakeCase

/-!
# Detecting cases

An enum gains one method for each of its cases, which tells whether a value is of that case. The
method of `HTTPError` is called `is_http_error`; two cases that lead to one name are refused.

* `Detector`: the method for one case, with the pattern that it matches.
* `Detector.all`: the methods for all cases, or the two cases whose methods have one name.
-/

namespace Graft

/-- The pattern that all values of a case match. -/
structure CasePattern where
  variant : Ident
  shape : CaseShape

/-- A pattern as it is written. -/
def CasePattern.tokens (p : CasePattern) : List Token :=
  code "Self ::" ++ [.ident p.variant] ++
    match p.shape with
    | .unit => []
    | .tuple => [parens (operator "..")]
    | .struct => [braces (operator "..")]

/-- The method that detects one case. -/
structure Detector where
  name : Ident
  /-- The name of the case as it is shown. -/
  shown : String
  pattern : CasePattern

namespace Detector

/-- The name of the method that detects a case. -/
def nameFor (variant : Ident) : String :=
  "is_" ++ String.ofList (snakeCase variant.unraw.toList)

/-- The method that detects a case. -/
def ofCase (c : EnumCase) : Detector where
  name := ⟨nameFor c.name, c.name.span⟩
  shown := c.name.unraw
  pattern := ⟨c.name, c.shape⟩

/-- The method to be written. -/
def method (vis : Visibility) (d : Detector) : Method :=
  { Method.plain vis d.name
      (code ":: core :: matches !" ++
        [parens (code "* self ," ++ d.pattern.tokens)]) with
    attrs := [docAttribute ("Returns `true` if this is [`Self::" ++ d.shown ++ "`]."), mustUse]
    receiver := some (code "& self")
    output := some [word "bool"] }

/-- Two cases whose methods would have one name: the first case, if any, whose method has the name
of an earlier one, and that earlier case. -/
def clash? (seen : List EnumCase) : List EnumCase → Option (EnumCase × EnumCase)
  | [] => none
  | c :: rest =>
    match seen.find? fun s => nameFor s.name == nameFor c.name with
    | some first => some (first, c)
    | none => clash? (seen ++ [c]) rest

/-- The methods for all cases. -/
def all (cases : List EnumCase) : Except Diagnostic (List Detector) :=
  match clash? [] cases with
  | some (first, second) =>
    .error (.on [.ident second.name]
      (.duplicateDetector (nameFor second.name) first.name.unraw second.name.unraw))
  | none => .ok (cases.map ofCase)

end Detector

namespace Transform

/-- The detecting methods for the enum that the transform is attached to. -/
def addDetectors (r : Request) : Except Diagnostic Reply :=
  match r.site.item? with
  | none => .ok (.just .nothing)
  | some i =>
    if i.outline.kind == .enum then
      match Detector.all i.outline.cases with
      | .error d => .error d
      | .ok [] => .ok (.just .nothing)
      | .ok ds => .ok (.just (.declarations (ds.map fun d => (d.method i.outline.vis).tokens)))
    else .ok (.just .nothing)

end Transform

end Graft
