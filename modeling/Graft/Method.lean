import Graft.Outline
import Graft.Text.Quoted

/-!
# Synthesised declarations

* `Method`: a method to be written; `Method.tokens` writes it.
* `Outline.implBlock?`: an implementation of the declared type that holds some declarations.
* `docAttribute` and the like: attributes made up here.
-/

namespace Graft

/-- A string literal made up at the call site. -/
def quotedToken (text : String) : Token := .literal (Quoted.literal text) .callSite

/-- An attribute made up at the call site. -/
def Attribute.new (path : String) (tokens : List Token) : Attribute :=
  ⟨.callSite, false, .callSite, ⟨none, [.new path]⟩, tokens⟩

/-- An attribute that documents something. -/
def docAttribute (text : String) : Attribute := .new "doc" (operator "=" ++ [quotedToken text])

/-- An attribute that asks for a result to be used. -/
def mustUse : Attribute := .new "must_use" []

/-- The attributes that have to stand on everything generated along with an item: those that may
remove it. -/
def copiedAttrs (attrs : List Attribute) : List Attribute :=
  attrs.filter fun a => a.path.isName "cfg" || a.path.isName "doc_cfg"

/-- The receiver of a signature, as it is written. -/
def Signature.receiver? (s : Signature) : Option (List Token) :=
  match s.inputs with
  | .receiver r :: _ => some (Part.tokensOf r.parts)
  | _ => none

/-- A method to be written. -/
structure Method where
  attrs : List Attribute
  vis : Visibility
  async : Bool
  name : Ident
  generics : Generics
  receiver : Option (List Token)
  /-- The parameters, each a pattern and a type. -/
  params : List (List Token × List Token)
  output : Option (List Token)
  body : List Token
deriving Inhabited

namespace Method

/-- A method without parameters and result. -/
def plain (vis : Visibility) (name : Ident) (body : List Token) : Method where
  attrs := []
  vis := vis
  async := false
  name := name
  generics := .empty
  receiver := none
  params := []
  output := none
  body := body

/-- What stands between the parentheses. -/
def inputs (m : Method) : List (List Token) :=
  m.receiver.toList ++ m.params.map fun (pat, ty) => pat ++ operator ":" ++ ty

/-- A method as it is written. -/
def tokens (m : Method) : List Token :=
  attributeTokens m.attrs ++ Part.tokensOf m.vis.parts ++
    (if m.async then [word "async"] else []) ++ [word "fn", .ident m.name] ++
    Part.tokensOf m.generics.paramParts ++ [parens (commaSeparated m.inputs)] ++
    (match m.output with
      | some ty => operator "->" ++ ty
      | none => []) ++
    Part.tokensOf m.generics.clauseParts ++ [braces m.body]

end Method

/-- An implementation of the declared type that holds some declarations. -/
def Outline.implBlock? (o : Outline) (decls : List (List Token)) : Option (List Token) :=
  o.naming.map fun n =>
    [word "impl"] ++ Part.tokensOf n.generics.implParts ++ [.ident n.name] ++
      Part.tokensOf n.generics.nameParts ++ Part.tokensOf n.generics.clauseParts ++
      [braces decls.flatten]

end Graft
