import Graft.Showcase.Client
import Graft.Transform.Bridge
import Graft.Proofs.Channel.FirstValue
import Graft.Proofs.Method.Reading
import Mathlib

/-!
# An asynchronous sibling answers the first value

The body of a sibling makes a channel, hands the function a closure that owns the sending end, and
waits at the receiving end. So the function's calls of the closure are what is sent, the end of the
closure is that of the sending end, and awaiting polls until it is not told to wait.

* `Sibling.WrittenCall.read?`: the call that a statement is; `Sibling.callsWith?`: its arguments, if
  it is one of a given function.
* `Sibling.bridges`: whether a body does this, told from its tokens; `Sibling.bridges_body`: what is
  written for a sibling does.
* `Sibling.Course`: what a function does with its callback, before it returns and from poll to poll;
  `Sibling.Course.outcome`: what awaiting the sibling comes to.
* **`channel_delivers_first_value`**: what every poll of every run answers, and hence what a sibling
  does.
-/

namespace Graft

/-! ## 1. Reading a body -/

namespace Sibling

/-- The names that a statement gives to the sending and the receiving end of a new channel. -/
def opens? : List Token → Option (String × String)
  | .ident w :: .group .paren [.ident sender, .punct ',' _ _, .ident receiver] _ :: rest =>
    if w.text == "let" && Token.sameList rest
        (code "= :: playtomic :: __private :: Completion :: channel" ++ [parens []]) then
      some (sender.text, receiver.text)
    else none
  | _ => none

/-- The sending end that a closure moves into itself and sends its argument through. -/
def sendsThrough? : List Token → Option String
  | [.ident w, .punct '|' _ _, .ident value, .punct '|' _ _, .ident sender, .punct '.' _ _,
      .ident method, .group .paren [.ident sent] _] =>
    if w.text == "move" && method.text == "resume" && value.text == sent.text then
      some sender.text
    else none
  | _ => none

/-- What is passed by reference or in a box, without the reference or box. -/
def unpassed (ts : List Token) : List Token :=
  match ts with
  | .punct '&' _ _ :: .ident w :: rest => if w.text == "mut" then rest else .ident w :: rest
  | ts =>
    match ts.getLast? with
    | some (.group .paren inner _) =>
      if Token.sameList ts.dropLast (code ":: std :: boxed :: Box :: new") then inner else ts
    | _ => ts

/-- What stands between the commas of an argument list. -/
def arguments (ts : List Token) : List (List Token) := ts.splitOnP (Token.isMark ',')

/-- A call of a function by its name, or of a method of `self`. -/
structure WrittenCall where
  ofSelf : Bool
  callee : Ident
  args : List (List Token)
  awaited : Bool

/-- The call that a statement consists of. What it returns may be bound to `_`. -/
def WrittenCall.read? (ts : List Token) : Option WrittenCall :=
  let call := (Token.behind? (code "let _ =") ts).getD ts
  let method := Token.behind? (code "self .") call
  match method.getD call with
  | [.ident callee, .group .paren inner _] =>
    some ⟨method.isSome, callee, arguments inner, false⟩
  | .ident callee :: .group .paren inner _ :: rest =>
    if Token.sameList rest (code ". await") then
      some ⟨method.isSome, callee, arguments inner, true⟩
    else none
  | _ => none

/-- Whether a call is one of this function: by its name, through `self` if the function has a
receiver, and awaited if the function is asynchronous. -/
def WrittenCall.isOf (f : FnItem) (c : WrittenCall) : Bool :=
  c.callee.same f.sig.ident && c.ofSelf == f.sig.receiver?.isSome &&
    c.awaited == f.sig.async.isSome

/-- The arguments that a statement calls a function with. -/
def callsWith? (f : FnItem) (ts : List Token) : Option (List (List Token)) :=
  (WrittenCall.read? ts).bind fun c => if c.isOf f then some c.args else none

/-- The sending end that a statement hands over to a function, inside the last argument. -/
def handsOver? (f : FnItem) (ts : List Token) : Option String :=
  ((callsWith? f ts).bind List.getLast?).bind fun last => sendsThrough? (unpassed last)

/-- The receiving end that an expression awaits. -/
def awaits? : List Token → Option String
  | [.ident receiver, .punct '.' _ _, .ident w] =>
    if w.text == "await" then some receiver.text else none
  | _ => none

/-- **Whether a body bridges the callback of a function**: it makes a channel, calls the function
and hands it the sending end, and awaits the receiving one. -/
def bridges (f : FnItem) (body : List Token) : Bool :=
  match body.splitOnP (Token.isMark ';') with
  | [first, second, third] =>
    match opens? first, handsOver? f second, awaits? third with
    | some (sender, receiver), some given, some awaited => given == sender && awaited == receiver
    | _, _, _ => false
  | _ => false

/-! ## 2. The body that is written -/

theorem closure_eq : closure =
    [word "move", .punct '|' .alone .callSite, word "value", .punct '|' .alone .callSite,
      word "completion", .punct '.' .alone .callSite, word "resume", parens [word "value"]] := by
  cbv

theorem boxNew_eq : code ":: std :: boxed :: Box :: new" =
    [.punct ':' .joint .callSite, .punct ':' .alone .callSite, word "std",
      .punct ':' .joint .callSite, .punct ':' .alone .callSite, word "boxed",
      .punct ':' .joint .callSite, .punct ':' .alone .callSite, word "Box",
      .punct ':' .joint .callSite, .punct ':' .alone .callSite, word "new"] := by
  cbv

theorem ref_eq : operator "&" = [.punct '&' .alone .callSite] := rfl

theorem refMut_eq : code "& mut" = [.punct '&' .alone .callSite, word "mut"] := by
  cbv

theorem sendsThrough?_closure : sendsThrough? closure = some "completion" := by
  rw [closure_eq]
  rfl

/-- However the closure is passed, it is the closure that is passed. -/
theorem unpassed_pass (p : Passing) : unpassed (p.pass closure) = closure := by
  cases p with
  | direct =>
    rw [Passing.pass, closure_eq]
    simp [unpassed, boxNew_eq, word, parens, Token.sameList, Token.atomsOf, Token.atoms]
  | boxed =>
    rw [Passing.pass, boxNew_eq]
    simp [unpassed, boxNew_eq, word, parens, Token.sameList]
  | ref =>
    rw [Passing.pass, closure_eq, ref_eq]
    rfl
  | refMut =>
    rw [Passing.pass, closure_eq, refMut_eq]
    rfl

theorem arguments_pass (p : Passing) : arguments (p.pass closure) = [p.pass closure] := by
  refine List.splitOnP_eq_singleton ?_
  cases p with
  | direct =>
    rw [Passing.pass, closure_eq]
    simp [Token.isMark, word, parens]
  | boxed =>
    rw [Passing.pass, boxNew_eq]
    simp [Token.isMark, word, parens]
  | ref =>
    rw [Passing.pass, closure_eq, ref_eq]
    simp [Token.isMark, word, parens]
  | refMut =>
    rw [Passing.pass, closure_eq, refMut_eq]
    simp [Token.isMark, word, parens]

/-- The arguments of the call are the forwarded names one by one, and then the closure. -/
theorem arguments_forwarded (names : List (Ident × Ty)) (p : Passing) :
    arguments (names.flatMap (fun (name, _) => .ident name :: operator ",") ++ p.pass closure) =
      names.map (fun n => [.ident n.1]) ++ [p.pass closure] := by
  induction names with
  | nil =>
    rw [List.flatMap_nil, List.nil_append, arguments_pass]
    rfl
  | cons n rest ih =>
    obtain ⟨name, ty⟩ := n
    have hname : ∀ x ∈ [Token.ident name], Token.isMark ',' x = false := by simp [Token.isMark]
    have hsplit := List.splitOnP_append_cons_of_forall_mem hname (.punct ',' .alone .callSite) rfl
      (rest.flatMap (fun (name, _) => .ident name :: operator ",") ++ p.pass closure)
    rw [List.flatMap_cons, List.append_assoc]
    show List.splitOnP (Token.isMark ',') ([.ident name] ++ .punct ',' .alone .callSite ::
      (rest.flatMap (fun (name, _) => .ident name :: operator ",") ++ p.pass closure)) = _
    rw [hsplit, ← arguments, ih]
    rfl

/-- The statement that calls the function, without its end. -/
def callStatement (s : Sibling) : List Token :=
  (if s.source.sig.output.isSome then code "let _ =" else []) ++ s.call

theorem letStatement_eq : code "let _ =" =
    [word "let", word "_", .punct '=' .alone .callSite] := by
  cbv

theorem selfAccess_eq : code "self ." = [word "self", .punct '.' .alone .callSite] := by
  cbv

theorem awaiting_eq : code ". await" = [.punct '.' .alone .callSite, word "await"] := by
  cbv

/-- The call without what may stand in front of it. -/
def plainCall (s : Sibling) : List Token :=
  .ident s.source.sig.ident :: parens s.callArgs ::
    if s.source.sig.async.isSome then code ". await" else []

theorem callStatement_eq (s : Sibling) : s.callStatement =
    (if s.source.sig.output.isSome then code "let _ =" else []) ++
      ((if s.source.sig.receiver?.isSome then code "self ." else []) ++ s.plainCall) := by
  rw [callStatement, call, plainCall, List.append_assoc, List.cons_append, List.cons_append,
    List.nil_append]

/-- A call does not begin like a binding. -/
theorem behind?_let (s : Sibling) : Token.behind? (code "let _ =")
    ((if s.source.sig.receiver?.isSome then code "self ." else []) ++ s.plainCall) = none := by
  rw [letStatement_eq, selfAccess_eq, plainCall]
  split <;> simp [Token.behind?, Token.sameList, Token.atomsOf, Token.atoms, word, parens]

/-- A function's name does not begin like a member of `self`. -/
theorem behind?_self (s : Sibling) : Token.behind? (code "self .") s.plainCall = none := by
  rw [selfAccess_eq, plainCall]
  simp [Token.behind?, Token.sameList, Token.atomsOf, Token.atoms, word, parens]

/-- **The call in the statement is read as it was written.** -/
theorem read?_callStatement (s : Sibling) : WrittenCall.read? s.callStatement =
    some ⟨s.source.sig.receiver?.isSome, s.source.sig.ident, arguments s.callArgs,
      s.source.sig.async.isSome⟩ := by
  have unbound : (Token.behind? (code "let _ =") s.callStatement).getD s.callStatement =
      (if s.source.sig.receiver?.isSome then code "self ." else []) ++ s.plainCall := by
    rw [callStatement_eq]
    cases s.source.sig.output.isSome with
    | true =>
      rw [if_pos rfl, Token.behind?_append]
      rfl
    | false =>
      rw [if_neg Bool.false_ne_true, List.nil_append, s.behind?_let]
      rfl
  have method : ∃ found, Token.behind? (code "self .")
      ((if s.source.sig.receiver?.isSome then code "self ." else []) ++ s.plainCall) = found ∧
      found.isSome = s.source.sig.receiver?.isSome ∧
      found.getD ((if s.source.sig.receiver?.isSome then code "self ." else []) ++ s.plainCall) =
        s.plainCall := by
    cases s.source.sig.receiver?.isSome with
    | true => exact ⟨_, Token.behind?_append _ _, rfl, rfl⟩
    | false => exact ⟨_, s.behind?_self, rfl, rfl⟩
  obtain ⟨found, behind, isSome, plain⟩ := method
  unfold WrittenCall.read?
  dsimp only
  rw [unbound, behind, plain, isSome, plainCall]
  cases s.source.sig.async.isSome with
  | true =>
    rw [if_pos rfl, awaiting_eq]
    simp [parens]
  | false => rfl

/-- The function of a sibling is called, with these arguments. -/
theorem callsWith?_callStatement (s : Sibling) :
    callsWith? s.source s.callStatement = some (arguments s.callArgs) := by
  rw [callsWith?, read?_callStatement, Option.bind_some]
  exact if_pos (by simp [WrittenCall.isOf, Ident.same])

theorem handsOver?_callStatement (s : Sibling) :
    handsOver? s.source s.callStatement = some "completion" := by
  rw [handsOver?, callsWith?_callStatement, Option.bind_some, callArgs, arguments_forwarded,
    List.getLast?_concat, Option.bind_some, unpassed_pass, sendsThrough?_closure]

theorem callStatement_one (s : Sibling) : ∀ t ∈ s.callStatement, Token.isMark ';' t = false := by
  unfold callStatement call
  rw [letStatement_eq, selfAccess_eq, awaiting_eq]
  split <;> split <;> split <;> simp [Token.isMark, word, parens]

/-- The statement that makes the channel, without its end. -/
def channelStatement : List Token :=
  [word "let", parens (code "completion , pending")] ++
    code "= :: playtomic :: __private :: Completion :: channel" ++ [parens []]

theorem channelPath_eq : code "= :: playtomic :: __private :: Completion :: channel" =
    [.punct '=' .alone .callSite, .punct ':' .joint .callSite, .punct ':' .alone .callSite,
      word "playtomic", .punct ':' .joint .callSite, .punct ':' .alone .callSite,
      word "__private", .punct ':' .joint .callSite, .punct ':' .alone .callSite,
      word "Completion", .punct ':' .joint .callSite, .punct ':' .alone .callSite,
      word "channel"] := by
  cbv

theorem ends_eq : code "completion , pending" =
    [word "completion", .punct ',' .alone .callSite, word "pending"] := by
  cbv

theorem pendingAwait_eq : code "pending . await" =
    [word "pending", .punct '.' .alone .callSite, word "await"] := by
  cbv

theorem opens?_channelStatement : opens? channelStatement = some ("completion", "pending") := by
  rw [channelStatement, ends_eq]
  simp [opens?, word, parens, Ident.new, Token.sameList]

theorem awaits?_pending : awaits? (code "pending . await") = some "pending" := by
  rw [pendingAwait_eq]
  rfl

theorem channelStatement_one : ∀ t ∈ channelStatement, Token.isMark ';' t = false := by
  rw [channelStatement, channelPath_eq]
  simp [Token.isMark, word, parens]

theorem body_eq (s : Sibling) :
    s.body = channelStatement ++ .punct ';' .alone .callSite ::
      (s.callStatement ++ .punct ';' .alone .callSite :: code "pending . await") := by
  rw [body, statement, callStatement, channelStatement, Token.semicolon_eq]
  simp only [List.append_assoc, List.cons_append, List.nil_append]

/-- The body of a sibling has three statements. -/
theorem statements_body (s : Sibling) : s.body.splitOnP (Token.isMark ';') =
    [channelStatement, s.callStatement, code "pending . await"] := by
  have hlast : ∀ t ∈ code "pending . await", Token.isMark ';' t = false := by
    rw [pendingAwait_eq]
    simp [Token.isMark, word]
  rw [body_eq, List.splitOnP_append_cons_of_forall_mem channelStatement_one _ rfl,
    List.splitOnP_append_cons_of_forall_mem s.callStatement_one _ rfl,
    List.splitOnP_eq_singleton hlast]

/-- **The body of a sibling bridges the callback of its function.** -/
theorem bridges_body (s : Sibling) : bridges s.source s.body = true := by
  simp only [bridges, statements_body, opens?_channelStatement, handsOver?_callStatement,
    awaits?_pending, beq_self_eq_true, Bool.and_self]

end Sibling

/-! ## 3. Awaiting a sibling -/

namespace Sibling

variable {α : Type}

/-- What a function can do with the callback that it was given. -/
inductive Use (α : Type) where
  | call (a : α)
  | drop

/-- The callback owns the sending end: to call it is to send, and the end goes away with it. -/
def Use.op : Use α → Channel.Op α
  | .call a => .resume a
  | .drop => .dropSender

/-- The value that the callback is called with. -/
def Use.value? (u : Use α) : Option α := u.op.sent?

/-- **What a function does with its callback**: before it returns, and from then on between one poll
of the sibling and the next. -/
structure Course (α : Type) where
  before : List (Use α)
  later : List (List (Use α))

/-- Awaits the receiving end: polls it, and as long as it is told to wait, polls again after what
the function did in the meantime. -/
def settle (c : Channel α) : List (List (Use α)) → Poll α
  | [] => c.poll.1
  | uses :: later =>
    match c.poll with
    | (.pending, c') => settle (c'.after (uses.map Use.op)) later
    | (p, _) => p

namespace Course

/-- Everything that is done with the callback. -/
def uses (course : Course α) : List (Use α) := course.before ++ course.later.flatten

/-- The values that the callback is called with. -/
def called (course : Course α) : List α := course.uses.filterMap Use.value?

/-- A callback that was dropped is not called any more. -/
def Owned (course : Course α) : Prop := Channel.Owned (course.uses.map Use.op)

/-- What awaiting the sibling comes to. -/
def outcome (course : Course α) : Poll α :=
  settle (Channel.new.after (course.before.map Use.op)) course.later

end Course

/-- What awaiting a method comes to, told from its tokens, if `f` does this with the callback that it
is given; nothing is known of a method that is not asynchronous or does not bridge the callback. -/
def awaited? (f : FnItem) (method : List Token) (course : Course α) : Option (Poll α) :=
  (Method.read? method).bind fun (_, body) =>
    if Method.saysAsync method && bridges f body then some course.outcome else none

theorem Use.op_ne_poll (u : Use α) : u.op ≠ .poll := by
  cases u <;> exact nofun

theorem Use.op_ne_dropReceiver (u : Use α) : u.op ≠ .dropReceiver := by
  cases u <;> exact nofun

/-- The receiving end is not what the function has. -/
theorem dropReceiver_not_mem (uses : List (Use α)) : .dropReceiver ∉ uses.map Use.op := by
  intro h
  obtain ⟨u, -, hu⟩ := List.mem_map.mp h
  exact u.op_ne_dropReceiver hu

theorem dropSender_mem {uses : List (Use α)} (h : .drop ∈ uses) :
    .dropSender ∈ uses.map Use.op := List.mem_map.mpr ⟨_, h, rfl⟩

theorem firstSent?_uses (uses : List (Use α)) :
    Channel.firstSent? (uses.map Use.op) = (uses.filterMap Use.value?).head? := by
  rw [Channel.firstSent?, List.findSome?_map, List.head?_filterMap]
  rfl

end Sibling

namespace Channel

open Sibling (Use)

variable {α : Type} {past : List (Op α)} {c : Channel α}

/-- What the function does with its callback keeps the invariant. -/
theorem Traces.after_uses (h : Traces past c) (uses : List (Use α))
    (owned : Owned (past ++ uses.map Use.op)) :
    Traces (past ++ uses.map Use.op) (c.after (uses.map Use.op)) := by
  induction uses generalizing past c with
  | nil =>
    rw [List.map_nil, List.append_nil]
    exact h
  | cons u rest ih =>
    rw [List.map_cons, List.append_cons] at owned ⊢
    have hu := (List.pairwise_append.mp (List.pairwise_append.mp owned).1).2.2
    have hstep : Traces (past ++ [u.op]) (c.step u.op).2 :=
      h.step (fun hm => (hu _ hm u.op (List.mem_singleton_self _)).1 rfl)
        (fun _ => u.op_ne_poll) (fun e => absurd e u.op_ne_poll)
    exact ih hstep owned

/-- What a poll told for good stays true, whatever happens later. -/
theorem Outcome.append {p : Poll α} (h : Outcome past p) (hp : p ≠ .pending) {more : List (Op α)}
    (owned : Owned (past ++ more)) : Outcome (past ++ more) p := by
  cases h with
  | ready sent => exact .ready (by rw [Channel.firstSent?_append, sent, Option.some_or])
  | pending sent there => exact absurd rfl hp
  | failed sent gone =>
    exact .failed (by rw [owned.firstSent?_append gone, sent]) (List.mem_append_left _ gone)

/-- **Awaiting tells what all of the history says.** By the number of polls: one that is told to
wait leaves the invariant to the next, and any other one is final. -/
theorem Traces.settle (h : Traces past c) (hr : .dropReceiver ∉ past) (later : List (List (Use α)))
    (owned : Owned (past ++ later.flatten.map Use.op)) :
    Outcome (past ++ later.flatten.map Use.op) (Sibling.settle c later) := by
  induction later generalizing past c with
  | nil =>
    rw [List.flatten_nil, List.map_nil, List.append_nil]
    exact h.outcome hr
  | cons uses later ih =>
    have hpoll := h.outcome hr
    rw [Sibling.settle]
    split
    · rename_i c' hc
      have hpending : c.poll.1 = .pending := by rw [hc]
      have hwaits : Traces past c' := by
        have := h.poll hpending
        rwa [hc] at this
      rw [List.flatten_cons, List.map_append, ← List.append_assoc] at owned ⊢
      refine ih (hwaits.after_uses uses (List.pairwise_append.mp owned).1) ?_ owned
      rw [List.mem_append]
      exact fun hm => hm.elim hr (Sibling.dropReceiver_not_mem uses)
    · rename_i p c' hne hc
      rw [hc] at hpoll
      exact hpoll.append hne owned

end Channel

namespace Sibling

variable {α : Type}

theorem Course.outcome_spec (course : Course α) (owned : course.Owned) :
    Channel.Outcome (course.uses.map Use.op) course.outcome := by
  have howned : Channel.Owned (course.before.map Use.op ++ course.later.flatten.map Use.op) := by
    rw [← List.map_append]
    exact owned
  have hbefore := Channel.traces_new.after_uses course.before (by
    rw [List.nil_append]
    exact (List.pairwise_append.mp howned).1)
  rw [List.nil_append] at hbefore
  rw [uses, List.map_append]
  exact hbefore.settle (dropReceiver_not_mem _) course.later howned

theorem awaited?_method (s : Sibling) (course : Course α) :
    awaited? s.source s.method.tokens course = some course.outcome := by
  rw [awaited?, Method.read?_tokens, Method.saysAsync_tokens, Option.bind_some]
  exact if_pos s.bridges_body

/-- **A sibling answers the first value that its function calls the callback with.** -/
theorem Course.outcome_of_called {course : Course α} (owned : course.Owned) {v : α}
    {values : List α} (h : course.called = v :: values) : course.outcome = .ready v := by
  refine ((course.outcome_spec owned).eq_ready v).mpr (Channel.firstSent?_eq_some.mp ?_)
  rw [firstSent?_uses, show course.uses.filterMap Use.value? = v :: values from h]
  rfl

/-- **A sibling fails if its function drops the callback without having called it.** -/
theorem Course.outcome_of_dropped {course : Course α} (owned : course.Owned)
    (h : course.called = []) (gone : .drop ∈ course.uses) : course.outcome = .failed := by
  refine (course.outcome_spec owned).eq_failed.mpr
    ⟨dropSender_mem gone, Channel.firstSent?_eq_none.mp ?_⟩
  rw [firstSent?_uses, show course.uses.filterMap Use.value? = [] from h]
  rfl

/-- A function that calls its callback with some values and drops it. -/
def calls (values : List α) : List (Use α) := values.map .call ++ [.drop]

theorem owned_calls (values : List α) : Channel.Owned ((calls values).map Use.op) := by
  rw [calls, List.map_append, List.map_map]
  refine List.pairwise_append.mpr ⟨?_, List.pairwise_singleton _ _, ?_⟩
  · exact List.pairwise_map.mpr (List.pairwise_of_forall fun _ _ => ⟨nofun, nofun⟩)
  · intro op hop _ _
    obtain ⟨a, -, rfl⟩ := List.mem_map.mp hop
    exact ⟨nofun, nofun⟩

theorem values_calls (values : List α) : (calls values).filterMap Use.value? = values := by
  rw [calls, List.filterMap_append, List.filterMap_map]
  show values.filterMap some ++ [] = values
  rw [List.filterMap_some, List.append_nil]

/-- What a sibling comes to whose function calls its callback with some values, now or later. -/
theorem Course.outcome_of_calls {course : Course α} {values : List α}
    (h : course.uses = calls values) : course.outcome = values.head?.elim .failed .ready := by
  have owned : course.Owned := by
    rw [Course.Owned, h]
    exact owned_calls values
  have hcalled : course.called = values := by rw [called, h, values_calls]
  cases values with
  | nil =>
    have hgone : .drop ∈ course.uses := by
      rw [h]
      exact List.mem_singleton_self _
    exact outcome_of_dropped owned hcalled hgone
  | cons v rest => exact outcome_of_called owned hcalled

end Sibling

/-! ## 4. The siblings of a client -/

namespace Channel

variable {α : Type}

theorem sender_resume (a : α) (c : Channel α) : (c.resume a).sender = c.sender := by
  unfold resume
  split <;> rfl

theorem after_calls {c : Channel α} (hs : c.sender = true) (values : List α) :
    c.after ((Sibling.calls values).map Sibling.Use.op) =
      (values.foldl (fun c a => c.resume a) c).dropSender := by
  induction values generalizing c with
  | nil =>
    show (c.step .dropSender).2 = c.dropSender
    rw [step, if_pos hs]
  | cons a rest ih =>
    show ((c.step (.resume a)).2).after ((Sibling.calls rest).map Sibling.Use.op) = _
    rw [step, if_pos hs]
    exact ih (by rw [sender_resume, hs])

end Channel

theorem Showcase.await_eq {α : Type} (values : List α) :
    Showcase.await values = values.head?.elim .failed .ready := by
  have hcourse :
      (⟨Sibling.calls values, []⟩ : Sibling.Course α).outcome = Showcase.await values := by
    show (Channel.new.after ((Sibling.calls values).map Sibling.Use.op)).poll.1 = _
    rw [Channel.after_calls rfl]
    rfl
  rw [← hcourse]
  exact Sibling.Course.outcome_of_calls (List.append_nil _)

theorem Showcase.awaitLater_eq {α : Type} (values : List α) :
    Showcase.awaitLater values = (.pending, values.head?.elim .failed .ready) := by
  have hcourse : Showcase.awaitLater values =
      (.pending, (⟨[], [Sibling.calls values]⟩ : Sibling.Course α).outcome) := by
    show _ = (Poll.pending, ((Channel.new : Channel α).poll.2.after
      ((Sibling.calls values).map Sibling.Use.op)).poll.1)
    rw [Channel.after_calls rfl]
    rfl
  rw [hcourse, Sibling.Course.outcome_of_calls (List.append_nil _)]

/-! ## 5. Channels and siblings -/

/-- **A channel delivers exactly the first value.** In every run in which no end is used that is
gone, and up to the first poll that is not told to wait: a poll is told to wait exactly if nothing
was sent and the sending end is there; it answers a value exactly if this was the first one sent;
and it fails exactly if the sending end was dropped and nothing was sent. So a sibling whose
function calls its callback answers the value of the first call, and it fails if the callback is
dropped without a call. -/
theorem channel_delivers_first_value {α : Type} :
    (∀ (ops : List (Channel.Op α)) (n : Nat), Channel.Owned ops → ops[n]? = some .poll →
      (∀ m < n, ops[m]? = some .poll → Channel.new.answerAt ops m = some (.polled .pending)) →
      ∃ p, Channel.new.answerAt ops n = some (.polled p) ∧
        (p = .pending ↔ (∀ a, .resume a ∉ ops.take n) ∧ .dropSender ∉ ops.take n) ∧
        (∀ v, p = .ready v ↔ Channel.FirstSent (ops.take n) v) ∧
        (p = .failed ↔ .dropSender ∈ ops.take n ∧ ∀ a, .resume a ∉ ops.take n)) ∧
    (∀ (s : Sibling) (course : Sibling.Course α), course.Owned →
      (∀ v values, course.called = v :: values →
        Sibling.awaited? s.source s.method.tokens course = some (.ready v)) ∧
      (course.called = [] → .drop ∈ course.uses →
        Sibling.awaited? s.source s.method.tokens course = some .failed)) ∧
    (∀ values : List α,
      Showcase.await values = values.head?.elim .failed .ready ∧
      Showcase.awaitLater values = (.pending, values.head?.elim .failed .ready)) := by
  refine ⟨fun ops n owned hpoll hwait => ?_,
    fun s course owned => ⟨fun v values h => ?_, fun h gone => ?_⟩,
    fun values => ⟨Showcase.await_eq values, Showcase.awaitLater_eq values⟩⟩
  · obtain ⟨p, hp, hout⟩ := Channel.answerAt_poll owned hpoll hwait
    exact ⟨p, hp, hout.eq_pending, hout.eq_ready, hout.eq_failed⟩
  · rw [Sibling.awaited?_method, Sibling.Course.outcome_of_called owned h]
  · rw [Sibling.awaited?_method, Sibling.Course.outcome_of_dropped owned h gone]

/-- A run in which two values are sent after a poll, and the sending end goes away before the next
poll. -/
def twoValuesRun : List (Channel.Op Nat) := [.poll, .resume 1, .resume 2, .dropSender, .poll]

theorem twoValuesRun_owned : Channel.Owned twoValuesRun := by
  simp [Channel.Owned, twoValuesRun, Channel.Op.sent?]

/-- The function `fetch(done: Box<dyn FnOnce(u32)>)`. -/
def fetchFunction : FnItem :=
  let value : Ty := .path (.mk none [.mk (.new "u32") .none])
  let trait : Path := .mk none [.mk (.new "FnOnce") (.paren .callSite [value] false none)]
  let callback : Ty := .path (.mk none [.mk (.new "Box") (.angle false .callSite .callSite
    [.ty (.traitObject (some .callSite) [.trait none none none trait] false)] false)])
  { (default : FnItem) with
    sig := { (default : Signature) with
      ident := .new "fetch"
      generics := .empty
      inputs := [.typed [] (.name none none (.new "done") none) .callSite callback] } }

/-- The sibling of this function. -/
def fetchSibling : Sibling :=
  ⟨fetchFunction, ⟨.path (.mk none [.mk (.new "u32") .none]), .boxed, none⟩⟩

/-- The second poll answers the first value, though another one was sent and the sending end is
gone; a sibling answers the value of a later call, and fails once its callback is dropped. -/
theorem channel_delivers_one_of_two :
    Channel.Owned twoValuesRun ∧
    Channel.new.answerAt twoValuesRun 4 = some (.polled (.ready 1)) ∧
    Sibling.of? fetchFunction = some fetchSibling ∧
    Sibling.awaited? fetchFunction fetchSibling.method.tokens ⟨[], [[], [.call 7, .call 8]]⟩ =
      some (.ready 7) ∧
    Sibling.awaited? fetchFunction fetchSibling.method.tokens
      (⟨[.drop], []⟩ : Sibling.Course Nat) = some .failed := by
  have law := channel_delivers_first_value (α := Nat)
  have hwait : ∀ m < 4, twoValuesRun[m]? = some .poll →
      Channel.new.answerAt twoValuesRun m = some (.polled .pending) := by
    intro m hm hpoll
    match m with
    | 0 => rfl
    | 1 | 2 | 3 => cases hpoll
    | m + 4 => omega
  obtain ⟨p, hp, -, hready, -⟩ := law.1 twoValuesRun 4 twoValuesRun_owned rfl hwait
  have hfirst : Channel.FirstSent (twoValuesRun.take 4) 1 :=
    ⟨[.poll], [.resume 2, .dropSender], rfl, by simp⟩
  refine ⟨twoValuesRun_owned, ?_, rfl, ?_, ?_⟩
  · rw [hp, (hready 1).mpr hfirst]
  · refine (law.2.1 fetchSibling ⟨[], [[], [.call 7, .call 8]]⟩ ?_).1 7 [8] rfl
    simp [Sibling.Course.Owned, Sibling.Course.uses, Channel.Owned, Sibling.Use.op]
  · refine (law.2.1 fetchSibling ⟨[.drop], []⟩ ?_).2 rfl (by simp [Sibling.Course.uses])
    simp [Sibling.Course.Owned, Sibling.Course.uses, Channel.Owned]

end Graft
