import Graft.Channel

/-!
# A channel delivers the first value

What a poll answers, read off the history of the channel alone. The channel has a slot, two ends
that go away independently, and a sending end that is used up by the first value; the history has
only what was done in which order.

* `Channel.Owned`: an end that is gone is not used any more.
* `Channel.Traces`: the invariant between a history and the channel it led to, one case for each
  operation in `Channel.Traces.step`.
* `Channel.Outcome`: what a poll has to answer after a history; `Channel.Traces.outcome` says that
  it does.
* `Channel.traces_take`: the invariant along a run, as long as every poll is told to wait.
-/

namespace Graft.Channel

variable {α : Type}

/-! ## 1. Histories -/

/-- The value that an operation sends. -/
def Op.sent? : Op α → Option α
  | .resume a => some a
  | .poll | .dropSender | .dropReceiver => none

/-- The value that was sent first. -/
def firstSent? (past : List (Op α)) : Option α := past.findSome? Op.sent?

/-- **Nothing is sent through an end that is gone, and nobody polls one.** -/
def Owned (ops : List (Op α)) : Prop :=
  ops.Pairwise fun earlier later =>
    (earlier = .dropSender → later.sent? = none) ∧ (earlier = .dropReceiver → later ≠ .poll)

/-- The channel after operations. -/
def after (c : Channel α) (ops : List (Op α)) : Channel α :=
  ops.foldl (fun c op => (c.step op).2) c

/-- What the operation at a place of a run answers. -/
def answerAt (c : Channel α) (ops : List (Op α)) (n : Nat) : Option (Answer α) :=
  (c.run ops)[n]?.map (·.1)

/-- The first value that was sent, in the words of the history. -/
def FirstSent (past : List (Op α)) (v : α) : Prop :=
  ∃ earlier later, past = earlier ++ .resume v :: later ∧ ∀ a, .resume a ∉ earlier

theorem Op.sent?_eq_some {op : Op α} {a : α} : op.sent? = some a ↔ op = .resume a := by
  cases op with
  | resume b => simp [sent?]
  | poll | dropSender | dropReceiver => simp [sent?]

theorem firstSent?_eq_none {past : List (Op α)} :
    firstSent? past = none ↔ ∀ a, .resume a ∉ past := by
  rw [firstSent?, List.findSome?_eq_none_iff]
  constructor
  · intro h a ha
    exact nomatch h _ ha
  · intro h op hop
    cases op with
    | resume a => exact absurd hop (h a)
    | poll | dropSender | dropReceiver => rfl

theorem firstSent?_eq_some {past : List (Op α)} {v : α} :
    firstSent? past = some v ↔ FirstSent past v := by
  rw [firstSent?, List.findSome?_eq_some_iff]
  constructor
  · rintro ⟨earlier, op, later, rfl, hop, hnone⟩
    rw [Op.sent?_eq_some.mp hop]
    exact ⟨earlier, later, rfl, firstSent?_eq_none.mp (List.findSome?_eq_none_iff.mpr hnone)⟩
  · rintro ⟨earlier, later, rfl, hnone⟩
    exact ⟨earlier, _, later, rfl, rfl,
      List.findSome?_eq_none_iff.mp (firstSent?_eq_none.mpr hnone)⟩

theorem firstSent?_append (past more : List (Op α)) :
    firstSent? (past ++ more) = (firstSent? past).or (firstSent? more) := List.findSome?_append

theorem firstSent?_concat (past : List (Op α)) (op : Op α) :
    firstSent? (past ++ [op]) = (firstSent? past).or op.sent? := by
  rw [firstSent?_append, firstSent?, firstSent?, List.findSome?_singleton]

/-- Nothing is sent after the sending end was dropped. -/
theorem Owned.firstSent?_append {past more : List (Op α)} (owned : Owned (past ++ more))
    (gone : .dropSender ∈ past) : firstSent? (past ++ more) = firstSent? past := by
  have hmore : firstSent? more = none := List.findSome?_eq_none_iff.mpr fun op hop =>
    ((List.pairwise_append.mp owned).2.2 _ gone op hop).1 rfl
  rw [Channel.firstSent?_append, hmore, Option.or_none]

/-! ## 2. The invariant -/

/-- **What a history says about the channel it led to.** The slot and the mark on it tell nothing
once the receiving end is gone, since a value that is sent then is lost. -/
structure Traces (past : List (Op α)) (c : Channel α) : Prop where
  sender : c.sender = true ↔ .dropSender ∉ past
  receiver : c.receiver = true ↔ .dropReceiver ∉ past
  canSend : c.canSend = true ↔ firstSent? past = none ∧ .dropSender ∉ past
  slot : .dropReceiver ∉ past → c.slot = firstSent? past
  closed : .dropReceiver ∉ past → c.closed = !c.canSend

theorem traces_new : Traces [] (new : Channel α) := by
  constructor <;> simp [new, firstSent?]

namespace Traces

variable {past : List (Op α)} {c : Channel α}

/-- Sending: the first value goes into the slot, and no other one does. -/
theorem resume (h : Traces past c) (hs : .dropSender ∉ past) (a : α) :
    Traces (past ++ [.resume a]) (c.resume a) := by
  have hsent := firstSent?_concat past (.resume a)
  cases hsend : c.canSend with
  | true =>
    have hnone := (h.canSend.mp hsend).1
    rw [hnone, Option.none_or, Op.sent?] at hsent
    constructor
    · simpa [Channel.resume, hsend, close] using h.sender
    · simpa [Channel.resume, hsend, close] using h.receiver
    · simp [Channel.resume, hsend, close, hsent]
    · intro hr
      have hr' : .dropReceiver ∉ past := fun hm => hr (List.mem_append_left _ hm)
      simp [Channel.resume, hsend, close, hsent, h.closed hr']
    · intro _
      simp [Channel.resume, hsend, close]
  | false =>
    have hsome : firstSent? past ≠ none := fun hnone => by
      rw [h.canSend.mpr ⟨hnone, hs⟩] at hsend
      cases hsend
    have hsame : firstSent? (past ++ [.resume a]) = firstSent? past := by
      rw [hsent, Option.or_of_isSome (Option.isSome_iff_ne_none.mpr hsome)]
    rw [show c.resume a = c by simp [Channel.resume, hsend]]
    constructor
    · simpa using h.sender
    · simpa using h.receiver
    · simp [hsend, hsame, hsome]
    · intro hr
      rw [hsame]
      exact h.slot fun hm => hr (List.mem_append_left _ hm)
    · intro hr
      exact h.closed fun hm => hr (List.mem_append_left _ hm)

/-- Dropping the sending end, be it used up or not. -/
theorem dropSender (h : Traces past c) : Traces (past ++ [.dropSender]) (c.dropSender) := by
  have hsent := firstSent?_concat past .dropSender
  rw [Op.sent?, Option.or_none] at hsent
  cases hsend : c.canSend with
  | true =>
    constructor
    · simp [Channel.dropSender, hsend, close]
    · simpa [Channel.dropSender, hsend, close] using h.receiver
    · simp [Channel.dropSender, hsend, close]
    · intro hr
      rw [hsent]
      simpa [Channel.dropSender, hsend, close] using
        h.slot fun hm => hr (List.mem_append_left _ hm)
    · intro _
      simp [Channel.dropSender, hsend, close]
  | false =>
    constructor
    · simp [Channel.dropSender, hsend]
    · simpa [Channel.dropSender, hsend] using h.receiver
    · simp [Channel.dropSender, hsend]
    · intro hr
      rw [hsent]
      simpa [Channel.dropSender, hsend] using h.slot fun hm => hr (List.mem_append_left _ hm)
    · intro hr
      simpa [Channel.dropSender, hsend] using h.closed fun hm => hr (List.mem_append_left _ hm)

/-- Dropping the receiving end: from here on nothing is said about the slot. -/
theorem dropReceiver (h : Traces past c) : Traces (past ++ [.dropReceiver]) (c.dropReceiver) := by
  have hsent := firstSent?_concat past .dropReceiver
  rw [Op.sent?, Option.or_none] at hsent
  constructor
  · simpa [Channel.dropReceiver] using h.sender
  · simp [Channel.dropReceiver]
  · rw [hsent]
    simpa [Channel.dropReceiver] using h.canSend
  · intro hr
    exact absurd (List.mem_append_right _ (List.mem_singleton_self _)) hr
  · intro hr
    exact absurd (List.mem_append_right _ (List.mem_singleton_self _)) hr

/-- A poll that is told to wait changes nothing that a history speaks of. -/
theorem poll (h : Traces past c) (hpending : c.poll.1 = .pending) : Traces past c.poll.2 := by
  unfold Channel.poll at hpending ⊢
  split at hpending
  · split at hpending <;> cases hpending
  · rename_i hopen
    rw [if_neg hopen]
    exact ⟨h.sender, h.receiver, h.canSend, h.slot, h.closed⟩

/-- An operation that leaves no trace: nothing is sent, and no end goes away that was there. -/
theorem concat (h : Traces past c) {op : Op α} (hsent : op.sent? = none)
    (hs : op = .dropSender → .dropSender ∈ past) (hr : op = .dropReceiver → .dropReceiver ∈ past) :
    Traces (past ++ [op]) c := by
  have hsame : firstSent? (past ++ [op]) = firstSent? past := by
    rw [firstSent?_concat, hsent, Option.or_none]
  have hsender : .dropSender ∈ past ++ [op] ↔ .dropSender ∈ past := by
    rw [List.mem_append, List.mem_singleton]
    exact or_iff_left_of_imp fun e => hs e.symm
  have hreceiver : .dropReceiver ∈ past ++ [op] ↔ .dropReceiver ∈ past := by
    rw [List.mem_append, List.mem_singleton]
    exact or_iff_left_of_imp fun e => hr e.symm
  constructor
  · rw [hsender]
    exact h.sender
  · rw [hreceiver]
    exact h.receiver
  · rw [hsame, hsender]
    exact h.canSend
  · rw [hsame, hreceiver]
    exact h.slot
  · rw [hreceiver]
    exact h.closed

/-- **One step.** An end is used only while it is there, and a poll is told to wait. -/
theorem step (h : Traces past c) {op : Op α}
    (hs : .dropSender ∈ past → op.sent? = none)
    (hr : .dropReceiver ∈ past → op ≠ .poll)
    (hpending : op = .poll → (c.step op).1 = .polled .pending) :
    Traces (past ++ [op]) (c.step op).2 := by
  cases op with
  | resume a =>
    have hthere : .dropSender ∉ past := fun hm => nomatch hs hm
    rw [Channel.step, if_pos (h.sender.mpr hthere)]
    exact h.resume hthere a
  | poll =>
    have hthere : c.receiver = true := h.receiver.mpr fun hm => hr hm rfl
    have hanswer := hpending rfl
    rw [Channel.step, if_pos hthere] at hanswer ⊢
    injection hanswer with hanswer
    exact (h.poll hanswer).concat rfl nofun nofun
  | dropSender =>
    rw [Channel.step]
    split
    · exact h.dropSender
    · rename_i hgone
      have hm : .dropSender ∈ past := Classical.byContradiction fun hm => hgone (h.sender.mpr hm)
      exact h.concat rfl (fun _ => hm) nofun
  | dropReceiver =>
    rw [Channel.step]
    split
    · exact h.dropReceiver
    · rename_i hgone
      have hm : .dropReceiver ∈ past :=
        Classical.byContradiction fun hm => hgone (h.receiver.mpr hm)
      exact h.concat rfl nofun (fun _ => hm)

end Traces

/-! ## 3. What a poll answers -/

/-- **What a poll has to answer after a history**: the first value that was sent; if there is none,
that nothing will come once the sending end is gone, and to wait otherwise. -/
inductive Outcome (past : List (Op α)) : Poll α → Prop
  | ready {v : α} (sent : firstSent? past = some v) : Outcome past (.ready v)
  | pending (sent : firstSent? past = none) (there : .dropSender ∉ past) : Outcome past .pending
  | failed (sent : firstSent? past = none) (gone : .dropSender ∈ past) : Outcome past .failed

theorem Traces.outcome {past : List (Op α)} {c : Channel α} (h : Traces past c)
    (hr : .dropReceiver ∉ past) : Outcome past c.poll.1 := by
  have hslot := h.slot hr
  have hclosed := h.closed hr
  cases hsend : c.canSend with
  | true =>
    obtain ⟨hnone, hthere⟩ := h.canSend.mp hsend
    have hopen : c.closed = false := by rw [hclosed, hsend]; rfl
    have hpoll : c.poll.1 = .pending := by simp [Channel.poll, hopen]
    rw [hpoll]
    exact .pending hnone hthere
  | false =>
    have hdone : c.closed = true := by rw [hclosed, hsend]; rfl
    cases hsent : firstSent? past with
    | some v =>
      have hpoll : c.poll.1 = .ready v := by simp [Channel.poll, hdone, hslot, hsent]
      rw [hpoll]
      exact .ready hsent
    | none =>
      have hpoll : c.poll.1 = .failed := by simp [Channel.poll, hdone, hslot, hsent]
      have hgone : .dropSender ∈ past := Classical.byContradiction fun hthere => by
        rw [h.canSend.mpr ⟨hsent, hthere⟩] at hsend
        cases hsend
      rw [hpoll]
      exact .failed hsent hgone

namespace Outcome

variable {past : List (Op α)} {p : Poll α}

theorem eq_pending (h : Outcome past p) :
    p = .pending ↔ (∀ a, .resume a ∉ past) ∧ .dropSender ∉ past := by
  rw [← firstSent?_eq_none]
  cases h with
  | ready sent => simp [sent]
  | pending sent there => simp [sent, there]
  | failed sent gone => simp [gone]

theorem eq_ready (h : Outcome past p) (v : α) : p = .ready v ↔ FirstSent past v := by
  rw [← firstSent?_eq_some]
  cases h with
  | ready sent => simp [sent]
  | pending sent there => simp [sent]
  | failed sent gone => simp [sent]

theorem eq_failed (h : Outcome past p) :
    p = .failed ↔ .dropSender ∈ past ∧ ∀ a, .resume a ∉ past := by
  rw [← firstSent?_eq_none]
  cases h with
  | ready sent => simp [sent]
  | pending sent there => simp [there]
  | failed sent gone => simp [sent, gone]

end Outcome

/-! ## 4. Runs -/

theorem after_concat (c : Channel α) (ops : List (Op α)) (op : Op α) :
    c.after (ops ++ [op]) = ((c.after ops).step op).2 := by
  rw [after, after, List.foldl_append]
  rfl

/-- The answer at a place of a run is the one of the channel that the operations before it left. -/
theorem answerAt_eq (c : Channel α) (ops : List (Op α)) (n : Nat) :
    c.answerAt ops n = ops[n]?.map fun op => ((c.after (ops.take n)).step op).1 := by
  unfold answerAt
  induction ops generalizing c n with
  | nil => rfl
  | cons op rest ih =>
    cases n with
    | zero => rfl
    | succ n => exact ih (c.step op).2 n

/-- **The invariant along a run**, as long as every poll is told to wait. -/
theorem traces_take {ops : List (Op α)} (owned : Owned ops) {n : Nat} (hn : n ≤ ops.length)
    (hwait : ∀ m < n, ops[m]? = some .poll → new.answerAt ops m = some (.polled .pending)) :
    Traces (ops.take n) (new.after (ops.take n)) := by
  induction n with
  | zero => exact traces_new
  | succ n ih =>
    have hlt : n < ops.length := hn
    have hop : ops[n]? = some ops[n] := List.getElem?_eq_getElem hlt
    have htake : ops.take (n + 1) = ops.take n ++ [ops[n]] := List.take_succ_eq_append_getElem hlt
    have hbefore := ih (Nat.le_of_lt hlt) fun m hm => hwait m (Nat.lt_succ_of_lt hm)
    have hpairs : Owned (ops.take n ++ [ops[n]]) := by
      rw [← htake]
      exact owned.sublist (List.take_sublist _ _)
    have hlast : ∀ earlier ∈ ops.take n, _ := fun earlier he =>
      (List.pairwise_append.mp hpairs).2.2 earlier he ops[n] (List.mem_singleton_self _)
    rw [htake, after_concat]
    refine hbefore.step (fun hm => (hlast _ hm).1 rfl) (fun hm => (hlast _ hm).2 rfl)
      fun hpoll => ?_
    have hanswer := hwait n (Nat.lt_succ_self n) (by rw [hop, hpoll])
    rw [answerAt_eq, hop] at hanswer
    exact Option.some.inj hanswer

/-- **What a poll of a run answers**, as long as every poll before it was told to wait. -/
theorem answerAt_poll {ops : List (Op α)} (owned : Owned ops) {n : Nat}
    (hpoll : ops[n]? = some .poll)
    (hwait : ∀ m < n, ops[m]? = some .poll → new.answerAt ops m = some (.polled .pending)) :
    ∃ p, new.answerAt ops n = some (.polled p) ∧ Outcome (ops.take n) p := by
  obtain ⟨hlt, hop⟩ := List.getElem?_eq_some_iff.mp hpoll
  have htraces := traces_take owned (Nat.le_of_lt hlt) hwait
  have hthere : .dropReceiver ∉ ops.take n := by
    intro hm
    have hpairs : Owned (ops.take n ++ [ops[n]]) := by
      rw [← List.take_succ_eq_append_getElem hlt]
      exact owned.sublist (List.take_sublist _ _)
    exact ((List.pairwise_append.mp hpairs).2.2 _ hm _ (List.mem_singleton_self _)).2 rfl hop
  refine ⟨_, ?_, htraces.outcome hthere⟩
  rw [answerAt_eq, hpoll, Option.map_some, step, if_pos (htraces.receiver.mpr hthere)]

end Graft.Channel
