import Graft.Channel

/-!
# A client with asynchronous siblings

Functions that report through a callback, and what their asynchronous siblings answer when they are
polled once.

* `await`: the sibling of a function that calls its callback with some values before it returns.
* `Client.call`: the functions, some of which change the client.
-/

namespace Graft.Showcase

/-- The answer of a sibling whose function calls the callback with these values and drops it. -/
def await {α : Type} (values : List α) : Poll α :=
  ((values.foldl (fun c a => Channel.resume a c) Channel.new).dropSender).poll.1

/-- The answers of a sibling whose function keeps the callback: one while nothing has happened, and
one after the callback was called with these values and dropped. -/
def awaitLater {α : Type} (values : List α) : Poll α × Poll α :=
  let (first, c) := (Channel.new : Channel α).poll
  (first, ((values.foldl (fun c a => Channel.resume a c) c).dropSender).poll.1)

/-- A client. -/
structure Client where
  base : UInt32
deriving DecidableEq, Repr, Inhabited

/-- A call of a sibling. -/
inductive Call where
  | fetchUser (id : UInt32)
  | checksum (bytes : List UInt8)
  | every (numbers : List UInt32)
  | hold (numbers : List UInt32)
  | add (n : UInt32)
  | double (n : UInt32)
  | count (start stop : UInt32)

/-- What a call answers. -/
inductive Reply where
  | user (p : Poll (Except String String))
  | number (p : Poll Nat)
  | twice (first second : Poll Nat)

/-- The user of a number. -/
def user (id : UInt32) : Except String String :=
  if id == 0 then .error "no such user" else .ok ("user" ++ toString id.toNat)

/-- A call: its answer, and the client afterwards. -/
def Client.call (c : Client) : Call → Reply × Client
  | .fetchUser id => (.user (await [user id]), c)
  | .checksum bytes => (.number (await [(bytes.foldl (· + ·) 0).toNat]), c)
  | .every numbers => (.number (await (numbers.map UInt32.toNat)), c)
  | .hold numbers =>
    let (first, second) := awaitLater (numbers.map UInt32.toNat)
    (.twice first second, c)
  | .add n => (.number (await [(c.base + n).toNat]), c)
  | .double n => (.number (await [(n * 2).toNat]), c)
  | .count start stop => (.number (await [(stop - start).toNat]), ⟨c.base + 1⟩)

end Graft.Showcase
