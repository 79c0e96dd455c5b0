import Graft.Proofs.Grammar.Runs

/-!
# The parameters of a signature

A receiver is only ever the first parameter of a signature that was read.

* `Parser.Ensures`: whatever a parser reads has a property; one rule for each way of composing
  parsers.
* `ReceiverFirst`: no parameter but the first is a receiver. One round of reading parameters keeps
  it (`ReceiverFirst.concat`), so all rounds do (`fnArgsN_receiverFirst`).
* **`PropertyDecl.parse_receiverFirst`**: so it is in every declaration that was parsed.
-/

namespace Graft

/-! ## 1. What parsers ensure -/

namespace Parser

/-- Whatever a parser reads has a property. -/
def Ensures {α : Type} (p : Parser α) (P : α → Prop) : Prop :=
  ∀ c a c', p.run c = .ok (a, c') → P a

variable {α β : Type} {p : Parser α} {P : α → Prop} {Q : β → Prop}

namespace Ensures

theorem trivial (p : Parser α) : p.Ensures fun _ => True := fun _ _ _ _ => .intro

theorem fail (e : SyntaxError) : (fail e : Parser α).Ensures P := by
  intro c a c' h
  nomatch h

theorem pure {a : α} (h : P a) : (pure a : Parser α).Ensures P := by
  intro c b c' run
  obtain ⟨rfl, -⟩ := run_pure_eq_ok run
  exact h

theorem bind {f : α → Parser β} (hp : p.Ensures P) (hf : ∀ a, P a → (f a).Ensures Q) :
    (p >>= f).Ensures Q := by
  intro c b c' run
  obtain ⟨a, c₁, first, second⟩ := run_bind_eq_ok run
  exact hf a (hp c a c₁ first) c₁ b c' second

/-- In front of a parser may stand any other. -/
theorem after {f : α → Parser β} (hf : ∀ a, (f a).Ensures Q) : (p >>= f).Ensures Q :=
  (trivial p).bind fun a _ => hf a

/-- What is read inside a group is what the parser of its contents reads. -/
theorem within (d : Delimiter) (hp : p.Ensures P) : (within d p).Ensures fun x => P x.1 := by
  refine after fun c => ?_
  split
  next =>
    split
    next => exact after fun _ => hp.bind fun a ha => after fun _ => after fun _ => pure ha
    next => exact after fun _ => fail _
  next => exact after fun _ => fail _

end Ensures

end Parser

theorem parse_ensures {α : Type} {p : Rules → Parser α} {P : α → Prop}
    (hp : ∀ r, (p r).Ensures P) {ts : List Token} {a : α} (h : parse p ts = .ok a) : P a := by
  obtain ⟨c, run, -⟩ := parse_eq_ok h
  exact hp _ _ a c run

/-! ## 2. Receivers -/

/-- No parameter but the first is a receiver. -/
def ReceiverFirst (args : List FnArg) : Prop := ∀ arg ∈ args.tail, ∀ r, arg ≠ .receiver r

namespace ReceiverFirst

theorem nil : ReceiverFirst [] := fun _ mem => nomatch mem

/-- One more parameter, which is a receiver only if it is the first. -/
theorem concat {args : List FnArg} {arg : FnArg} (first : ReceiverFirst args)
    (h : ∀ r, arg = .receiver r → args = []) : ReceiverFirst (args ++ [arg]) := by
  cases args with
  | nil => exact fun _ mem => nomatch mem
  | cons a args =>
    intro b mem r
    rcases List.mem_append.mp mem with mem | mem
    · exact first b mem r
    · rw [List.mem_singleton.mp mem]
      intro found
      nomatch h r found

theorem dropLast {args : List FnArg} (first : ReceiverFirst args) :
    ReceiverFirst args.dropLast := by
  intro b mem r
  rw [List.tail_dropLast] at mem
  exact first b ((List.dropLast_sublist _).subset mem) r

end ReceiverFirst

namespace Grammar

open Graft.Parser

theorem checkReceiver_ensures (before : List FnArg) (arg : FnArg) :
    (checkReceiver before arg).Ensures fun _ => ∀ r, arg = .receiver r → before = [] := by
  cases arg with
  | receiver self =>
    dsimp only [checkReceiver]
    split
    next => exact .fail _
    next =>
      split
      next => exact .fail _
      next empty => exact .pure fun _ _ => by simpa using empty
  | typed attrs pat colon ty => exact .pure fun r h => nomatch h
  | dots attrs span => exact .pure fun r h => nomatch h

/-- **All rounds keep a receiver in the first place.** -/
theorem fnArgsN_receiverFirst (r : Rules) (n : Nat) {before : List FnArg}
    (first : ReceiverFirst before) : (fnArgsN r before n).Ensures fun x => ReceiverFirst x.1 := by
  induction n generalizing before with
  | zero => exact .fail _
  | succ n ih =>
    unfold fnArgsN
    refine .after fun atEnd => ?_
    split
    next => exact .pure first
    next =>
      refine .after fun arg => (checkReceiver_ensures before arg).bind fun _ checked => ?_
      have more := first.concat checked
      refine .after fun atEnd => ?_
      split
      next => exact .pure more
      next => exact .after fun _ => ih more

theorem fnArgs_receiverFirst (r : Rules) : (fnArgs r).Ensures fun x => ReceiverFirst x.1 := by
  refine .after fun c => (fnArgsN_receiverFirst r _ .nil).bind fun ⟨args, trailing⟩ first => ?_
  dsimp only
  split
  next => exact .pure first.dropLast
  next => exact .pure first

theorem signature_receiverFirst (r : Rules) :
    (signature r).Ensures fun s => ReceiverFirst s.inputs := by
  refine .after fun _ => .after fun _ => .after fun _ => .after fun _ => .after fun _ =>
    .after fun _ => .after fun _ => ?_
  refine (Ensures.within .paren (fnArgs_receiverFirst r)).bind fun x first => ?_
  exact .after fun _ => .after fun _ => .pure first

theorem propertyDecl_receiverFirst (r : Rules) :
    (propertyDecl r).Ensures fun d => ReceiverFirst d.sig.inputs := by
  refine .after fun _ => .after fun _ => (signature_receiverFirst r).bind fun s first => ?_
  refine .after fun braced => ?_
  split
  next => exact .after fun _ => .pure first
  next => exact .after fun _ => .pure first

end Grammar

/-- **Only the first parameter of a declaration that was parsed may be a receiver.** -/
theorem PropertyDecl.parse_receiverFirst {ts : List Token} {d : PropertyDecl}
    (h : PropertyDecl.parse ts = .ok d) : ReceiverFirst d.sig.inputs :=
  parse_ensures Grammar.propertyDecl_receiverFirst h

end Graft
