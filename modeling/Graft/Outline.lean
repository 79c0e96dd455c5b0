import Graft.Tree.Decl

/-!
# Outlines of declarations

What a transform needs to know of a declaration: the name and parameters of a type, its properties
and its cases.

* `Outline`: a declaration in outline; `Item.outline` makes one.
* `Property`: a field, or a property that is written as a function.
* `Ty.unwrap?`: the argument of a type such as `Option<T>`.
-/

namespace Graft

/-! ## 1. Types with one argument -/

/-- The type among generic arguments, if there is exactly one. -/
def GenericArg.singleTy? (args : List GenericArg) : Option Ty :=
  match args.filterMap (fun | .ty t => some t | _ => none) with
  | [t] => some t
  | _ => none

/-- The argument `T` of a type that is written `wrapper<T>`, whatever path leads to the wrapper. -/
def Ty.unwrap? (wrapper : String) : Ty → Option Ty
  | .path p =>
    match p.last? with
    | some (.mk ident (.angle _ _ _ args _)) =>
      if ident.text == wrapper then GenericArg.singleTy? args else none
    | _ => none
  | _ => none

/-! ## 2. Properties -/

/-- How a field is reached: by its name or by its place. -/
inductive FieldRef where
  | named (ident : Ident)
  | index (n : Nat)
deriving Repr, Inhabited

/-- The token of a field behind a point. -/
def FieldRef.token : FieldRef → Token
  | .named i => .ident i
  | .index n => .literal (toString n) .callSite

/-- A data member of a type. -/
structure Property where
  /-- The name for parameters and bindings. -/
  name : Ident
  /-- How the member is reached on a value. -/
  field : FieldRef
  ty : Option Ty
  /-- The body that computes the property, if there is one. -/
  body : Option Block
  /-- Whether the property belongs to the type rather than to its values. -/
  isStatic : Bool
deriving Inhabited

namespace Property

/-- The property that a field is; fields without a name are counted. -/
def ofField (index : Nat) (f : Field) : Property :=
  match f.ident with
  | some i => ⟨i, .named i, some f.ty, none, false⟩
  | none => ⟨.new ("field_" ++ toString index), .index index, some f.ty, none, false⟩

/-- Whether a parameter is `self`, in short form or with a type. -/
def isSelf : FnArg → Bool
  | .receiver _ => true
  | .typed _ (.name _ _ ident _) _ _ => ident.text == "self"
  | _ => false

/-- The property that a declaration is. -/
def ofDecl (d : PropertyDecl) : Property where
  name := d.sig.ident
  field := .named d.sig.ident
  ty := d.sig.output
  body := d.body
  isStatic := !(d.sig.inputs.head?.map isSelf).getD false

/-- A property without a body is backed by storage. -/
def isStored (p : Property) : Bool := p.body.isNone

/-- A property with a body is computed. -/
def isComputed (p : Property) : Bool := p.body.isSome

/-- Whether the type of a property is an `Option`. -/
def isOptional (p : Property) : Bool := (p.ty.bind (Ty.unwrap? "Option")).isSome

/-- A property that is stored in each value. -/
def isInstanceStored (p : Property) : Bool := p.isStored && !p.isStatic

end Property

namespace PropertyDecl

/-- Whether a parameter is a shared reference to `self`. -/
def isSharedSelf : FnArg → Bool
  | .receiver r => r.reference.isSome && r.mutable.isNone
  | _ => false

/-- Whether a signature is just `fn name(&self)` or `fn name()`, without generics. -/
def isPlainGetter (d : PropertyDecl) : Bool :=
  d.sig.inputs.all isSharedSelf && d.sig.generics.params.isEmpty &&
    d.sig.generics.clause.isNone && d.sig.async.isNone && d.sig.variadic.isNone

end PropertyDecl

/-! ## 3. Declarations -/

/-- The kinds of declarations that are told apart. -/
inductive DeclKind where
  | struct
  | enum
  | union
  | other
deriving DecidableEq, Repr, Inhabited

/-- The name of a kind. -/
def DeclKind.text : DeclKind → String
  | .struct => "Struct"
  | .enum => "Enum"
  | .union => "Union"
  | .other => "Other"

/-- What the payload of a case looks like. -/
inductive CaseShape where
  | unit
  | tuple
  | struct
deriving DecidableEq, Repr, Inhabited

/-- The name of a shape. -/
def CaseShape.text : CaseShape → String
  | .unit => "Unit"
  | .tuple => "Tuple"
  | .struct => "Struct"

/-- The shape of fields. -/
def Fields.shape : Fields → CaseShape
  | .unit => .unit
  | .named _ _ _ => .struct
  | .unnamed _ _ _ => .tuple

/-- A case of an enum. -/
structure EnumCase where
  name : Ident
  shape : CaseShape
deriving Repr, Inhabited

/-- A member of a type. -/
inductive Member where
  | property (p : Property)
  | case (c : EnumCase)
deriving Inhabited

/-- The parts of a declaration that have a name. -/
structure Naming where
  name : Ident
  vis : Visibility
  generics : Generics
deriving Inhabited

/-- A declaration in outline. -/
structure Outline where
  kind : DeclKind
  attrs : List Attribute
  naming : Option Naming
  members : List Member
deriving Inhabited

namespace Outline

/-- The outline of a type, from its beginning and its members. -/
def ofHead (kind : DeclKind) (h : TypeHead) (members : List Member) : Outline :=
  ⟨kind, h.attrs, some ⟨h.ident, h.vis, h.generics⟩, members⟩

/-- The properties that fields are. -/
def ofFields (fields : List Field) : List Member :=
  fields.mapIdx fun i f => .property (.ofField i f)

/-- The properties in order. -/
def properties (o : Outline) : List Property :=
  o.members.filterMap fun
    | .property p => some p
    | .case _ => none

/-- The cases in order. -/
def cases (o : Outline) : List EnumCase :=
  o.members.filterMap fun
    | .case c => some c
    | .property _ => none

/-- The visibility of the declaration. -/
def vis (o : Outline) : Visibility :=
  match o.naming with
  | some n => n.vis
  | none => .inherited

end Outline

/-- An item in outline. -/
def Item.outline : Item → Outline
  | .struct head fields => .ofHead .struct head (Outline.ofFields fields.toList)
  | .union head _ fields _ => .ofHead .union head (Outline.ofFields fields)
  | .enum head _ variants _ =>
    .ofHead .enum head (variants.map fun v => .case ⟨v.ident, v.fields.shape⟩)
  | .function _ | .other _ _ | .verbatim _ => ⟨.other, [], none, []⟩

/-- Whether a type mentions one of the type parameters. -/
def Ty.mentionsParam (t : Ty) (g : Generics) : Bool := g.typeParams.any fun p => t.mentions p.ident

end Graft
