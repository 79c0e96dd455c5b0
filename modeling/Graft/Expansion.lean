import Graft.Transform.Catalog

/-!
# Expansions

From the tokens of an attribute and an item, or of an invocation, to the tokens that replace them
and the diagnostics to report.

* `splice`: an addition placed where it belongs.
* `Transform.invoke`: a transform's reply; one that fails adds nothing.
* `expandAttached`, `expandInvoked`: whole expansions. If the name, the arguments or the item
  cannot be made out, in this order, the item stays as it was given.
-/

namespace Graft

/-! ## 1. Placing an addition -/

/-- An attribute from the tokens between its brackets. -/
def Attribute.ofBody : List Token → Except SyntaxError Attribute := fun body =>
  Graft.parse (fun _ => Grammar.outerAttribute) (operator "#" ++ [brackets body])

/-- The fields with the attribute `inside` behind the attributes of those whose numbers are listed.
`index` is the number of the first field. -/
def addToFields (inside : List Token) (chosen : List Nat) (index : Nat) :
    List Field → Except SyntaxError (List Field)
  | [] => .ok []
  | f :: rest => do
    let f ← if chosen.contains index then
        let a ← Attribute.ofBody inside
        pure { f with attrs := f.attrs ++ [a] }
      else pure f
    return f :: (← addToFields inside chosen (index + 1) rest)

/-- An item whose listed fields have one more attribute. Only a struct or union has fields of its
own. -/
def Item.withFieldAttributes (inside : List Token) (chosen : List Nat) :
    Item → Except SyntaxError Item
  | .struct head (.named span fields trailing) => do
    return .struct head (.named span (← addToFields inside chosen 0 fields) trailing)
  | .struct head (.unnamed span fields trailing) => do
    return .struct head (.unnamed span (← addToFields inside chosen 0 fields) trailing)
  | .union head span fields trailing => do
    return .union head span (← addToFields inside chosen 0 fields) trailing
  | item => .ok item

/-- An addition placed where it belongs; it fails only on an attribute that is none. -/
def splice (placement : Placement) (site : Site) (addition : Addition) :
    Except SyntaxError (List Token) :=
  match addition with
  | .nothing => .ok site.tokens
  | .expression tokens => .ok tokens
  | .declarations decls =>
    if placement == .member then
      match site with
      | .item i =>
        match i.outline.implBlock? decls with
        | some members => .ok (site.tokens ++ members)
        | none => .ok site.tokens
      | _ => .ok site.tokens
    else .ok (site.tokens ++ decls.flatten)
  | .accessors getter setter => .ok (getter ++ setter)
  | .conformance path =>
    .ok ((Attribute.new "derive" [parens path.tokens]).render ++ site.tokens)
  | .fieldAttribute inside fields =>
    match site with
    | .item i => do return (← i.withFieldAttributes inside fields).tokens
    | _ => .ok site.tokens

/-! ## 2. Whole expansions -/

/-- What an expansion comes to. -/
structure Expansion where
  tokens : List Token
  diagnostics : List Diagnostic

/-- Whether an expansion failed. -/
def Expansion.failed (e : Expansion) : Bool := e.diagnostics.any Diagnostic.isError

/-- The reply of a transform. One that fails adds nothing and reports why; one that reports an
error adds nothing either. -/
def Transform.invoke (t : Transform) (r : Request) : Addition × List Diagnostic :=
  match t.run r with
  | .error d => (.nothing, [d])
  | .ok reply => if reply.notes.any Diagnostic.isError then (.nothing, reply.notes)
    else (reply.addition, reply.notes)

/-- The expansion of a transform at a site. -/
def Transform.expandAt (t : Transform) (r : Request) : Expansion :=
  let (addition, notes) := t.invoke r
  match splice t.placement r.site addition with
  | .ok tokens => ⟨tokens, notes⟩
  | .error e => ⟨r.site.tokens, [.ofSyntax e]⟩

/-- The transform of a name, or the diagnostic that there is none. -/
def Transform.resolve (name : String) : Except Diagnostic Transform :=
  match Transform.named? name with
  | some t => .ok t
  | none => .error (.overall (.unknownTransform name))

/-- What a transform is attached to: a property's declaration for accessors, else an item. -/
def Site.parse (placement : Placement) (ts : List Token) : Except Diagnostic Site :=
  let made : Except SyntaxError Site :=
    if placement == .accessor then .property <$> PropertyDecl.parse ts else .item <$> Item.parse ts
  match made with
  | .ok site => .ok site
  | .error e => .error (.ofSyntax e)

/-- The transform, the arguments and the site of an attribute, the first that cannot be made out
being reported. -/
def attachment (std : Bool) (name : String) (attr item : List Token) :
    Except Diagnostic (Transform × Request) := do
  let t ← Transform.resolve name
  let arguments ← Arguments.parse attr
  let site ← Site.parse t.placement item
  return (t, ⟨site, arguments, std⟩)

/-- The expansion of an attribute on an item. -/
def expandAttached (std : Bool) (name : String) (attr item : List Token) : Expansion :=
  match attachment std name attr item with
  | .ok (t, r) => t.expandAt r
  | .error d => ⟨item, [d]⟩

/-- The transform and the arguments of an invocation. -/
def invocation (std : Bool) (name : String) (input : List Token) :
    Except Diagnostic (Transform × Request) := do
  let t ← Transform.resolve name
  let arguments ← Arguments.parse input
  return (t, ⟨.invocation, arguments, std⟩)

/-- The expansion of an invocation. -/
def expandInvoked (std : Bool) (name : String) (input : List Token) : Expansion :=
  match invocation std name input with
  | .ok (t, r) => t.expandAt r
  | .error d => ⟨[], [d]⟩

end Graft
