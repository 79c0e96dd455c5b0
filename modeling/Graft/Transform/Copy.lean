import Graft.Tree.Same
import Graft.Transform.Basic

/-!
# Copying with changes

A struct gains a method `copy` with one parameter for each field. The result has the given value in
a field whose parameter holds one, and a clone of the current value in every other field.

The parameter of a field of type `Option<T>` is a `Nullable<T>`, which tells "leave it" and "set it
to nothing" apart; that of any other field is an `Option`.

* `CopyField`: what the method does with one field.
* `CopyMethod.ofOutline`: the method for a struct.
* `cloneBounds`: the field types that have to be cloneable because they depend on a
  parameter of the struct.
-/

namespace Graft

/-- How a parameter overrides the current value of a field. -/
inductive Override where
  /-- An `Option` of the field's type. -/
  | optional (ty : Option Ty)
  /-- A `Nullable` of the type inside the field's `Option`. -/
  | nullable (inner : Ty)

/-- What a copying method does with one field: the parameter `name` overrides the current value of
`source`, and the outcome goes into `target`. -/
structure CopyField where
  name : Ident
  target : FieldRef
  source : FieldRef
  override : Override

/-- A copying method. -/
structure CopyMethod where
  vis : Visibility
  fields : List CopyField
  /-- The types that have to be cloneable. -/
  bounds : List Ty

namespace CopyField

/-- What is done with a property. -/
def ofProperty (p : Property) : CopyField where
  name := p.name
  target := p.field
  source := p.field
  override :=
    match p.ty.bind (Ty.unwrap? "Option") with
    | some inner => .nullable inner
    | none => .optional p.ty

/-- The type of the parameter. -/
def paramType (f : CopyField) : List Token :=
  match f.override with
  | .optional ty =>
    code ":: core :: option :: Option <" ++ (ty.map Ty.tokens).getD [] ++ operator ">"
  | .nullable inner => code ":: playtomic :: Nullable <" ++ inner.tokens ++ operator ">"

/-- The method that picks between the parameter and the current value. -/
def chooser (f : CopyField) : Token :=
  match f.override with
  | .optional _ => word "unwrap_or_else"
  | .nullable _ => word "or_else"

/-- The closure that gives the current value. -/
def current (f : CopyField) : List Token :=
  code "|| :: core :: clone :: Clone :: clone" ++ [parens (code "& self ." ++ [f.source.token])]

/-- The field in the literal of the result. -/
def init (f : CopyField) : List Token :=
  f.target.token :: (operator ":" ++ [.ident f.name] ++ operator "." ++
    [f.chooser, parens f.current])

end CopyField

/-- The distinct types among `tys` that depend on a parameter, in the order they occur first. -/
def cloneBounds (g : Generics) (tys : List Ty) : List Ty :=
  tys.foldl (fun bounds t =>
    if t.mentionsParam g && !bounds.any (Ty.same t) then bounds ++ [t] else bounds) []

/-- The path of the trait of cloneable types. -/
def clonePath : Path :=
  .mk (some .callSite) [.mk (.new "core") .none, .mk (.new "clone") .none, .mk (.new "Clone") .none]

/-- The condition that a type is cloneable. -/
def cloneable (t : Ty) : WherePredicate := .type none t [.trait none none none clonePath] false

namespace CopyMethod

/-- The copying method for a struct. -/
def ofOutline (o : Outline) : CopyMethod :=
  let properties := o.properties.filter Property.isInstanceStored
  { vis := o.vis
    fields := properties.map CopyField.ofProperty
    bounds :=
      match o.naming with
      | some n => cloneBounds n.generics (properties.filterMap (·.ty))
      | none => [] }

/-- The `where` clause of the method. -/
def clause (m : CopyMethod) : Option WhereClause :=
  if m.bounds.isEmpty then none else some ⟨.callSite, m.bounds.map cloneable, false⟩

/-- The method to be written. -/
def method (m : CopyMethod) : Method :=
  { Method.plain m.vis (.new "copy")
      (word "Self" :: [braces (commaSeparated (m.fields.map CopyField.init))]) with
    attrs := [docAttribute "Returns a copy of `self` with the given fields replaced.", mustUse]
    generics := { Generics.empty with clause := m.clause }
    receiver := some (code "& self")
    params := m.fields.map fun f => ([.ident f.name], f.paramType)
    output := some [word "Self"] }

end CopyMethod

namespace Transform

/-- The copying method for the struct that the transform is attached to. -/
def addCopy (r : Request) : Except Diagnostic Reply :=
  match r.site.item? with
  | none => .error (.overall .notStruct)
  | some i =>
    if i.outline.kind == .struct then
      let m := CopyMethod.ofOutline i.outline
      if m.fields.isEmpty then .ok (.just .nothing)
      else .ok (.just (.declarations [m.method.tokens]))
    else .error (.overall .notStruct)

end Transform

end Graft
