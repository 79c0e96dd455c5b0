/-!
# Channels for one value

A channel has a sending and a receiving end. The first value that is sent is delivered; further ones
vanish. Polling the receiving end answers that value once, tells that nothing has come yet, or fails
if nothing can come any more.

* `Channel.resume`, `Channel.dropSender`, `Channel.dropReceiver`, `Channel.poll`: what can happen.
* `Channel.wakes`: how often a waiting receiver has been woken.
* `Channel.step`: the same as operations of a run, in which an end that is gone cannot be used.
-/

namespace Graft

/-- The state of a channel. -/
structure Channel (α : Type) where
  /-- The value on its way. -/
  slot : Option α
  /-- Whether one of the ends is done, so that nothing more will be put into the slot. -/
  closed : Bool
  /-- Whether the sending end can still send. -/
  canSend : Bool
  /-- Whether the receiving end waits to be woken. -/
  waiting : Bool
  /-- How often it was woken. -/
  wakes : Nat
  /-- Whether the sending end is there. -/
  sender : Bool
  /-- Whether the receiving end is there. -/
  receiver : Bool
deriving DecidableEq, Repr, Inhabited

/-- What polling answers. -/
inductive Poll (α : Type) where
  | pending
  | ready (a : α)
  /-- The sending end is done and there is no value. -/
  | failed
deriving DecidableEq, Repr, Inhabited

/-- What is said when there will be no value. -/
def Channel.failure : String := "completion callback was dropped without being called"

namespace Channel

variable {α : Type}

/-- A channel that nothing has happened to. -/
def new : Channel α where
  slot := none
  closed := false
  canSend := true
  waiting := false
  wakes := 0
  sender := true
  receiver := true

/-- The sending end is done: a waiting receiver is woken. -/
def close (c : Channel α) : Channel α :=
  { c with
    closed := true
    canSend := false
    waiting := false
    wakes := if c.waiting then c.wakes + 1 else c.wakes }

/-- Sends a value. Only the first one has any effect. -/
def resume (a : α) (c : Channel α) : Channel α :=
  if c.canSend then close { c with slot := if c.closed then c.slot else some a } else c

/-- The sending end goes away. -/
def dropSender (c : Channel α) : Channel α :=
  let c := { c with sender := false }
  if c.canSend then close c else c

/-- The receiving end goes away; nobody waits any more. -/
def dropReceiver (c : Channel α) : Channel α :=
  { c with closed := true, waiting := false, receiver := false }

/-- Asks for the value. -/
def poll (c : Channel α) : Poll α × Channel α :=
  if c.closed then
    match c.slot with
    | some a => (.ready a, { c with slot := none })
    | none => (.failed, c)
  else (.pending, { c with waiting := true })

/-! ## Runs -/

/-- What can be done with a channel. -/
inductive Op (α : Type) where
  | resume (a : α)
  | poll
  | dropSender
  | dropReceiver
deriving Repr, Inhabited

/-- What an operation answers. -/
inductive Answer (α : Type) where
  | resumed
  | polled (p : Poll α)
  | dropped
  /-- The end that was to be used is gone. -/
  | gone
deriving DecidableEq, Repr, Inhabited

/-- One operation: its answer, and the channel afterwards. -/
def step (c : Channel α) : Op α → Answer α × Channel α
  | .resume a => if c.sender then (.resumed, c.resume a) else (.gone, c)
  | .poll => if c.receiver then (.polled c.poll.1, c.poll.2) else (.gone, c)
  | .dropSender => if c.sender then (.dropped, c.dropSender) else (.gone, c)
  | .dropReceiver => if c.receiver then (.dropped, c.dropReceiver) else (.gone, c)

/-- Operations in sequence: their answers, each with how often the receiver was woken so far. -/
def run (c : Channel α) : List (Op α) → List (Answer α × Nat)
  | [] => []
  | op :: rest => ((c.step op).1, (c.step op).2.wakes) :: run (c.step op).2 rest

end Channel

end Graft
