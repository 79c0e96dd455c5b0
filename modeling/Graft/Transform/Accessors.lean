import Graft.Transform.Basic
import Graft.LiteralClass

/-!
# Stored properties

The declaration `fn name(&self) -> T;` of a property becomes a getter and a setter that keep its
value in a key-value store. The arguments give the value of a property that was never set, and may
give the key and the store.

* `Reader`: the method of the store that a property is read with.
* `Access.of?`: how a property is read, from the class of its default and its declared type. A
  number is read with the store's own method only if the property is of the store's own type.
* `Accessors`: the getter and setter of a property.
-/

namespace Graft

/-! ## 1. Reading -/

/-- The method of a store that a property is read with. -/
inductive Reader where
  | bool
  | integer
  | float
  | string
  /-- Through the conversion of this type from stored values. -/
  | typed (ty : List Token)

/-- How a property is read. -/
structure Access where
  /-- The type of the values. -/
  ty : List Token
  /-- The value of a property that was never set. -/
  default : Expr
  reader : Reader

/-- The path of the type of texts. -/
def stringType : List Token := code ":: std :: string :: String"

/-- Whether a type is written as this bare name. -/
def Ty.isBare (name : String) : Ty → Bool
  | .path p =>
    match p.single? with
    | some i => i.text == name
    | none => false
  | _ => false

/-- The store's own type for numbers of a class. -/
def LiteralClass.storeType? : LiteralClass → Option String
  | .int => some "i64"
  | .float => some "f64"
  | _ => none

namespace Access

/-- How a property is read whose default is of this class, if its type is left to the class. -/
def ofClass? (default : Expr) : LiteralClass → Option Access
  | .bool => some ⟨[word "bool"], default, .bool⟩
  | .int => some ⟨[word "i64"], default, .integer⟩
  | .float => some ⟨[word "f64"], default, .float⟩
  | .string => some ⟨stringType, default, .string⟩
  | .named p => some ⟨p.tokens, default, .typed p.tokens⟩
  | .unrecognized => none

/-- The declared type of a number that is not the store's own type. -/
def foreignNumber? (c : LiteralClass) (declared : Option Ty) : Option Ty :=
  match c.storeType?, declared with
  | some own, some t => if t.isBare own then none else some t
  | _, _ => none

/-- How a property is read; `none` if its default is of no known class. -/
def of? (default : Expr) (declared : Option Ty) : Option Access :=
  match foreignNumber? default.literalClass declared with
  | some t => some ⟨t.tokens, default, .typed t.tokens⟩
  | none => ofClass? default default.literalClass

/-- The default as a value of the type. -/
def defaultTokens (a : Access) : List Token :=
  match a.reader with
  | .string => stringType ++ code ":: from" ++ [parens a.default.tokens]
  | _ => a.default.tokens

/-- The expression that reads the value, with `store` and `key` in scope. -/
def readTokens (a : Access) : List Token :=
  let call (method : String) := code "store ." ++ [word method, parens [word "key"]]
  match a.reader with
  | .bool => call "bool"
  | .integer => call "integer"
  | .float => call "float"
  | .string =>
    call "string" ++ code ". unwrap_or_else" ++ [parens (operator "||" ++ a.defaultTokens)]
  | .typed ty =>
    code "store . get :: <" ++ ty ++ operator ">" ++ [parens [word "key"]] ++
      code ". unwrap_or" ++ [parens a.default.tokens]

end Access

/-! ## 2. Accessors -/

/-- The getter and setter of a property. -/
structure Accessors where
  decl : PropertyDecl
  /-- The type that the getter returns and the setter takes. -/
  ty : List Token
  key : String
  store : List Token
  access : Access

namespace Accessors

/-- The statement that brings the store's methods into scope. -/
def useStore : List Token := code "use :: playtomic :: KeyValueStore as _ ;"

/-- The statement that names the store. -/
def letStore (a : Accessors) : List Token := code "let store = &" ++ a.store ++ operator ";"

/-- The body of the getter. -/
def getterBody (a : Accessors) : List Token :=
  useStore ++ a.letStore ++ code "let key =" ++ [quotedToken a.key] ++ operator ";" ++
    code "if store . value" ++ [parens [word "key"]] ++ code ". is_none" ++
    [parens [], braces ([word "return"] ++ a.access.defaultTokens ++ operator ";")] ++
    a.access.readTokens

/-- The getter. -/
def getter (a : Accessors) : Method :=
  { Method.plain a.decl.vis a.decl.sig.ident a.getterBody with
    attrs := a.decl.attrs
    receiver := a.decl.sig.receiver?
    output := some a.ty }

/-- The body of the setter. -/
def setterBody (a : Accessors) : List Token :=
  useStore ++ a.letStore ++ code "store . set" ++
    [parens (code "new_value ," ++ [quotedToken a.key])] ++ operator ";"

/-- The setter. -/
def setter (a : Accessors) : Method :=
  { Method.plain a.decl.vis (.new ("set_" ++ a.decl.sig.ident.unraw)) a.setterBody with
    attrs := copiedAttrs a.decl.attrs
    receiver := a.decl.sig.receiver?
    params := [([word "new_value"], a.ty)] }

end Accessors

namespace Transform

/-- The labels that arguments may have. -/
def accessLabels : List String := ["default_value", "key", "store"]

/-- Whether the label of an argument is one that it may have. -/
def isKnown (a : Argument) : Bool :=
  match a.label with
  | some l => accessLabels.contains l.text
  | none => false

/-- The key of a property: the one given, or its name. -/
def keyOf (args : Arguments) (d : PropertyDecl) : Except Diagnostic String :=
  match args.labeled "key" with
  | some e => staticText e .keyNotLiteral
  | none => .ok d.sig.ident.unraw

/-- The store of a property: the one given, or the shared one. -/
def storeOf (args : Arguments) : List Token :=
  match args.labeled "store" with
  | some e => e.tokens
  | none => code ":: playtomic :: UserDefaults :: standard" ++ [parens []]

/-- The accessors of a declared property. -/
def accessorsOf (args : Arguments) (d : PropertyDecl) : Except Diagnostic Accessors := do
  match args.find? (!isKnown ·) with
  | some wrong => throw (.on wrong.tokens .wrongArgument)
  | none => pure ()
  let default ← match args.labeled "default_value" with
    | some e => pure e
    | none => throw (.overall .missingDefault)
  let key ← keyOf args d
  if (Property.ofDecl d).isComputed || !d.isPlainGetter then throw (.overall .notStoredProperty)
  match Access.of? default d.sig.output with
  | none => throw (.on default.tokens .unsupportedDefault)
  | some access =>
    return { decl := d
             ty := match d.sig.output with
               | some t => t.tokens
               | none => access.ty
             key := key
             store := storeOf args
             access := access }

/-- The getter and setter of the property that the transform is attached to. -/
def addAccessors (r : Request) : Except Diagnostic Reply := do
  r.needStd
  match r.site with
  | .property d =>
    let a ← accessorsOf r.arguments d
    return .just (.accessors a.getter.tokens a.setter.tokens)
  | _ => throw (.overall .notStoredProperty)

end Transform

end Graft
