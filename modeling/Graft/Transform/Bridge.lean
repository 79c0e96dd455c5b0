import Graft.Transform.Basic
import Graft.Callback

/-!
# Asynchronous siblings

A function that reports its result through a callback gains an asynchronous sibling that returns
the result. The sibling makes a channel, calls the function with a closure that sends the value it
is called with into the channel, and waits at the other end.

A function that is unsafe, or that does not end with such a callback, gains nothing.
-/

namespace Graft

/-- The asynchronous sibling of a function. -/
structure Sibling where
  source : FnItem
  callback : Callback

namespace Sibling

/-- The sibling of a function, if it has one. -/
def of? (f : FnItem) : Option Sibling :=
  if f.sig.unsafety.isSome then none
  else f.sig.callback?.map fun callback => ⟨f, callback⟩

/-- The closure that sends the value it is called with. -/
def closure : List Token := code "move | value | completion . resume" ++ [parens [word "value"]]

/-- The arguments of the call: the forwarded parameters, and the closure as it has to be passed. -/
def callArgs (s : Sibling) : List Token :=
  s.source.sig.forwarded.flatMap (fun (name, _) => .ident name :: operator ",") ++
    s.callback.passing.pass closure

/-- The call of the function. -/
def call (s : Sibling) : List Token :=
  (if s.source.sig.receiver?.isSome then code "self ." else []) ++
    [.ident s.source.sig.ident, parens s.callArgs] ++
    if s.source.sig.async.isSome then code ". await" else []

/-- The statement that calls the function and drops what it returns. -/
def statement (s : Sibling) : List Token :=
  (if s.source.sig.output.isSome then code "let _ =" else []) ++ s.call ++ operator ";"

/-- The body of the sibling. -/
def body (s : Sibling) : List Token :=
  [word "let", parens (code "completion , pending")] ++
    code "= :: playtomic :: __private :: Completion :: channel" ++ [parens []] ++ operator ";" ++
    s.statement ++ code "pending . await"

/-- What the sibling is documented as. -/
def doc (s : Sibling) : String :=
  let name := s.source.sig.ident.text
  if s.source.sig.receiver?.isSome then
    "Async version of [`" ++ name ++ "`](Self::" ++ name ++ ")."
  else "Async version of [`" ++ name ++ "`]."

/-- The generics of the sibling: those of the function, without the callback's own parameter. -/
def generics (s : Sibling) : Generics :=
  match s.callback.generic with
  | some name => s.source.sig.generics.without name
  | none => s.source.sig.generics

/-- The method to be written. -/
def method (s : Sibling) : Method where
  attrs := copiedAttrs s.source.attrs ++ [docAttribute s.doc]
  vis := s.source.vis
  async := true
  name := .new (s.source.sig.ident.unraw ++ "_async")
  generics := s.generics
  receiver := s.source.sig.receiver?
  params := s.source.sig.forwarded.map fun (name, t) => ([.ident name], t.tokens)
  output := some s.callback.value.tokens
  body := s.body

end Sibling

namespace Transform

/-- The asynchronous sibling of the function that the transform is attached to. -/
def addSibling (r : Request) : Except Diagnostic Reply := do
  r.needStd
  match r.site with
  | .item (.function f) =>
    match Sibling.of? f with
    | some s => return .just (.declarations [s.method.tokens])
    | none => return .just .nothing
  | _ => return .just .nothing

end Transform

end Graft
