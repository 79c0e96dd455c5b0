import Graft.Grammar.Entry

/-!
# Runs of parsers

What the steps of a parser do to a cursor, so that later proofs never open `StateT`.

* `run_bind_of_ok`, `run_bind_eq_ok`: two parsers in sequence, forwards and backwards.
* `run_peek`, `run_advance`, `run_everything`: the steps that cannot fail; `run_peek_pos`,
  `run_peek_neg`: a branch on what is ahead.
* `anyWord_run`, `anyWord_eq_ok`: an identifier ahead is read, and whatever is read was ahead;
  `keyword_eq_ok`: so is a keyword.
* `OpSpelled`: tokens that spell an operator. `op_run_spelled` reads it from them, and `op_spelled`
  says that it is read from no others.
* `op_run`, `op_eq_ok`: an operator is read from its own tokens, and what is read is one.
* `within_run`, `within_eq_ok`: a group is read by reading what is inside, if it was ahead.
* `parse_eq_ok`: a whole phrase was read by a run of its parser.
* `reveal_not_invisible`: behind `reveal` no invisible group is ahead.
* `Visible`: tokens none of which is an invisible group, so that `reveal` leaves them alone.
-/

namespace Graft

/-! ## 1. Sequences -/

namespace Parser

variable {α β : Type} {p : Parser α} {f : α → Parser β} {c c' : Cursor}

theorem run_bind_of_ok {a : α} (h : p.run c = .ok (a, c')) : (p >>= f).run c = (f a).run c' := by
  rw [StateT.run_bind, h]
  rfl

theorem run_bind_of_error {e : SyntaxError} (h : p.run c = .error e) :
    (p >>= f).run c = .error e := by
  rw [StateT.run_bind, h]
  rfl

theorem run_bind_eq_ok {b : β} (h : (p >>= f).run c = .ok (b, c')) :
    ∃ a c₁, p.run c = .ok (a, c₁) ∧ (f a).run c₁ = .ok (b, c') := by
  cases hp : p.run c with
  | error e =>
    rw [run_bind_of_error hp] at h
    cases h
  | ok r =>
    obtain ⟨a, c₁⟩ := r
    rw [run_bind_of_ok hp] at h
    exact ⟨a, c₁, rfl, h⟩

theorem run_pure_eq_ok {a b : α} (h : (pure a : Parser α).run c = .ok (b, c')) :
    b = a ∧ c' = c := by
  injection h with h
  injection h with h₁ h₂
  exact ⟨h₁.symm, h₂.symm⟩

theorem run_get (c : Cursor) : (get : Parser Cursor).run c = .ok (c, c) := rfl

theorem run_set (c c₁ : Cursor) : (set c₁ : Parser PUnit).run c = .ok (⟨⟩, c₁) := rfl

theorem run_peek (q : Peek) (c : Cursor) : (peek q).run c = .ok (q c.rest, c) := rfl

/-- A branch on what is ahead, where the test holds. -/
theorem run_peek_pos {q : Peek} {g h : Parser α} (hq : q c.rest = true) :
    (do if ← peek q then g else h).run c = g.run c := by
  rw [run_bind_of_ok (run_peek q c), if_pos hq]

/-- A branch on what is ahead, where the test fails. -/
theorem run_peek_neg {q : Peek} {g h : Parser α} (hq : q c.rest = false) :
    (do if ← peek q then g else h).run c = h.run c := by
  rw [run_bind_of_ok (run_peek q c), if_neg (Bool.eq_false_iff.mp hq)]

theorem run_advance (ts : List Token) (c : Cursor) :
    (advance ts).run c = .ok ((), { c with rest := ts }) := rfl

theorem run_ahead {α : Type} (p : Parser α) (c : Cursor) : (ahead p).run c = .ok (p.run c, c) := rfl

/-- A parser that misses something here would not succeed here. -/
theorem run_succeeds_of_expected {α : Type} {p : Parser α} {c : Cursor} {s : Span} {atEnd : Bool}
    {what : List Expectation} (h : p.run c = .error (.expected s atEnd what)) :
    (succeeds p).run c = .ok (false, c) := by
  unfold succeeds
  rw [run_bind_of_ok (run_ahead p c), h]
  rfl

theorem run_everything (c : Cursor) : everything.run c = .ok (c.rest, { c with rest := [] }) := rfl

end Parser

/-! ## 2. The tokens ahead -/

theorem reveal_ident (i : Ident) (rest : List Token) :
    reveal (.ident i :: rest) = .ident i :: rest := by
  rw [reveal]
  intro _ _ _ h
  cases h

theorem reveal_punct (ch : Char) (sp : Spacing) (s : Span) (rest : List Token) :
    reveal (.punct ch sp s :: rest) = .punct ch sp s :: rest := by
  rw [reveal]
  intro _ _ _ h
  cases h

theorem reveal_group {d : Delimiter} (hd : d ≠ .invisible) (inner : List Token) (s : Span)
    (rest : List Token) : reveal (.group d inner s :: rest) = .group d inner s :: rest := by
  rw [reveal]
  intro _ _ _ h
  injection h with h _
  injection h with h _ _
  exact hd h

theorem reveal_nil : reveal [] = [] := by
  rw [reveal]
  intro _ _ _ h
  cases h

/-- **No invisible group is ahead behind `reveal`.** -/
theorem reveal_not_invisible {ts : List Token} {d : Delimiter} {inner : List Token} {s : Span}
    {rest : List Token} (h : reveal ts = .group d inner s :: rest) : d ≠ .invisible := by
  induction ts using reveal.induct with
  | case1 inner₁ s₁ rest₁ ih =>
    rw [reveal] at h
    exact ih h
  | case2 ts hts =>
    rw [reveal] at h
    · rintro rfl
      exact hts inner s rest h
    · exact hts

/-- Whether a token is no invisible group. -/
def Token.isVisible : Token → Bool
  | .group .invisible _ _ => false
  | _ => true

/-- Tokens none of which is an invisible group. -/
def Visible (ts : List Token) : Prop := ∀ t ∈ ts, t.isVisible = true

namespace Visible

theorem nil : Visible [] := by
  intro t ht
  nomatch ht

theorem cons {t : Token} {ts : List Token} (ht : t.isVisible = true) (hts : Visible ts) :
    Visible (t :: ts) :=
  List.forall_mem_cons.mpr ⟨ht, hts⟩

theorem append {ts us : List Token} (hts : Visible ts) (hus : Visible us) : Visible (ts ++ us) :=
  List.forall_mem_append.mpr ⟨hts, hus⟩

theorem reverse {ts : List Token} (h : Visible ts) : Visible ts.reverse :=
  fun t ht => h t (List.mem_reverse.mp ht)

theorem tail {t : Token} {ts : List Token} (h : Visible (t :: ts)) : Visible ts :=
  fun u hu => h u (List.mem_cons_of_mem t hu)

/-- Where no group is invisible, nothing is there to be looked through. -/
theorem reveal_eq {ts : List Token} (h : Visible ts) : reveal ts = ts := by
  rw [reveal]
  rintro inner s rest rfl
  exact Bool.false_ne_true (h _ List.mem_cons_self)

end Visible

/-! ## 3. Identifiers -/

namespace Parser

theorem anyWord_run (i : Ident) (rest : List Token) (stop : Span) (left : Option Span) :
    anyWord.run ⟨.ident i :: rest, stop, left⟩ = .ok (i, ⟨rest, stop, left⟩) := by
  unfold anyWord
  rw [run_bind_of_ok (run_get _), reveal_ident]
  rfl

theorem anyWord_eq_ok {c c' : Cursor} {i : Ident} (h : anyWord.run c = .ok (i, c')) :
    reveal c.rest = .ident i :: c'.rest := by
  unfold anyWord at h
  rw [run_bind_of_ok (run_get _)] at h
  split at h
  · rename_i j rest hj
    rw [run_bind_of_ok (run_advance _ _)] at h
    obtain ⟨rfl, rfl⟩ := run_pure_eq_ok h
    exact hj
  · cases h

/-! ## 4. Keywords -/

theorem peek_word_ident (text : String) (i : Ident) (rest : List Token) :
    Peek.word text (.ident i :: rest) = (i.text == text) := by
  simp only [Peek.word, reveal_ident]

theorem peek_word_group (text : String) {d : Delimiter} (hd : d ≠ .invisible) (inner : List Token)
    (s : Span) (rest : List Token) : Peek.word text (.group d inner s :: rest) = false := by
  simp only [Peek.word, reveal_group hd]

theorem keyword_eq_ok {text : String} {c c' : Cursor} {s : Span}
    (h : (keyword text).run c = .ok (s, c')) :
    ∃ i, i.text = text ∧ reveal c.rest = .ident i :: c'.rest := by
  unfold keyword at h
  rw [run_bind_of_ok (run_peek _ _)] at h
  split at h
  · rename_i hword
    obtain ⟨i, c₁, hi, h⟩ := run_bind_eq_ok h
    obtain ⟨-, rfl⟩ := run_pure_eq_ok h
    have hahead := anyWord_eq_ok hi
    simp only [Peek.word, hahead, beq_iff_eq] at hword
    exact ⟨i, hword, hahead⟩
  · cases h

/-- Where a word is ahead, a keyword that was read is that word. -/
theorem keyword_ident_eq_ok {text : String} {i : Ident} {rest : List Token} {stop : Span}
    {left : Option Span} {c' : Cursor} {s : Span}
    (h : (keyword text).run ⟨.ident i :: rest, stop, left⟩ = .ok (s, c')) :
    i.text = text ∧ c'.rest = rest := by
  obtain ⟨j, hj, hahead⟩ := keyword_eq_ok h
  rw [reveal_ident] at hahead
  injection hahead with hi hrest
  injection hi with hi
  exact ⟨hi ▸ hj, hrest.symm⟩

theorem keyword_run_error {text : String} {c : Cursor} (h : Peek.word text c.rest = false) :
    (keyword text).run c =
      .error (.expected (spanAhead c) c.rest.isEmpty [.symbol text]) := by
  unfold keyword
  rw [run_peek_neg h]
  rfl

theorem keyword?_run_none {text : String} {c : Cursor} (h : Peek.word text c.rest = false) :
    (keyword? text).run c = .ok (none, c) := by
  unfold keyword?
  rw [run_peek_neg h]
  rfl

/-! ## 5. Operators -/

/-- Tokens that spell an operator, each character but the last joint to its successor, with the
places of the characters. -/
inductive OpSpelled : List Char → List Token → List Span → Prop
  | last (ch : Char) (sp : Spacing) (s : Span) : OpSpelled [ch] [.punct ch sp s] [s]
  | more {cs : List Char} {ts : List Token} {spans : List Span} (ch : Char) (s : Span)
      (rest : OpSpelled cs ts spans) :
      OpSpelled (ch :: cs) (.punct ch .joint s :: ts) (s :: spans)

namespace OpSpelled

variable {cs : List Char} {ts : List Token} {spans : List Span}

theorem ne_nil (h : OpSpelled cs ts spans) : cs ≠ [] := by
  cases h with
  | last ch sp s => exact List.cons_ne_nil _ _
  | more ch s rest => exact List.cons_ne_nil _ _

theorem peek (h : OpSpelled cs ts spans) (htick : '\'' ∉ cs) (rest : List Token) :
    Peek.ofChars cs (ts ++ rest) = true := by
  induction h with
  | last ch sp s =>
    have hch : ch ≠ '\'' := fun e => htick (e ▸ List.mem_cons_self)
    simp [Peek.ofChars, reveal_punct, hch]
  | @more cs ts spans ch s more ih =>
    have hch : ch ≠ '\'' := fun e => htick (e ▸ List.mem_cons_self)
    have hmore := ih fun e => htick (List.mem_cons_of_mem _ e)
    obtain ⟨ch₂, cs, rfl⟩ := List.exists_cons_of_ne_nil more.ne_nil
    simp [Peek.ofChars, reveal_punct, hch, hmore]

theorem ahead (h : OpSpelled cs ts spans) (rest : List Token) (acc : List Span) :
    opAhead cs (ts ++ rest) acc = some (acc.reverse ++ spans, rest) := by
  induction h generalizing acc with
  | last ch sp s => simp [opAhead, reveal_punct]
  | more ch s more ih =>
    rw [List.cons_append, opAhead, reveal_punct]
    simp [ih]

theorem of_operatorAt (s : Span) {cs : List Char} (hne : cs ≠ []) :
    OpSpelled cs (operatorAt s cs) (List.replicate cs.length s) := by
  induction cs with
  | nil => exact absurd rfl hne
  | cons ch cs ih =>
    cases cs with
    | nil => exact .last ch .alone s
    | cons ch₂ cs => exact .more ch s (ih (List.cons_ne_nil _ _))

end OpSpelled

/-- Where no group is invisible, an operator that is ahead is spelled by the tokens ahead. -/
theorem opAhead_eq_some {cs : List Char} (hne : cs ≠ []) {ts rest : List Token}
    {acc spans : List Span} (hts : Visible ts) (h : opAhead cs ts acc = some (spans, rest)) :
    ∃ front found, OpSpelled cs front found ∧ ts = front ++ rest ∧
      spans = acc.reverse ++ found := by
  induction cs generalizing ts acc with
  | nil => exact absurd rfl hne
  | cons ch cs ih =>
    rw [opAhead, hts.reveal_eq] at h
    split at h
    · rename_i d sp s after
      split at h
      · rename_i hd
        obtain ⟨hch, hjoint⟩ := Bool.and_eq_true_iff.mp hd
        obtain rfl : ch = d := eq_of_beq hch
        cases cs with
        | nil =>
          rw [opAhead] at h
          injection h with h
          injection h with hspans hrest
          refine ⟨_, _, .last ch sp s, by rw [← hrest]; rfl, ?_⟩
          rw [← hspans, List.reverse_cons]
        | cons ch₂ cs =>
          obtain rfl : sp = .joint := by simpa using hjoint
          obtain ⟨front, found, spelled, hafter, hspans⟩ := ih (List.cons_ne_nil _ _) hts.tail h
          refine ⟨_, _, .more ch s spelled, by rw [hafter]; rfl, ?_⟩
          rw [hspans, List.reverse_cons, List.append_assoc]
          rfl
      · cases h
    · cases h

theorem opTokens_replicate (s : Span) (cs : List Char) :
    opTokens cs (List.replicate cs.length s) = operatorAt s cs := by
  induction cs with
  | nil => rfl
  | cons ch cs ih =>
    cases cs with
    | nil => rfl
    | cons ch₂ cs =>
      simp only [List.length_cons, List.replicate_succ, opTokens, operatorAt] at ih ⊢
      rw [ih]

/-- **An operator is read from any tokens that spell it.** -/
theorem op_run_spelled {text : String} {ts : List Token} {spans : List Span}
    (h : OpSpelled text.toList ts spans) (htick : '\'' ∉ text.toList) (rest : List Token)
    (stop : Span) (left : Option Span) :
    (op text).run ⟨ts ++ rest, stop, left⟩ =
      .ok (opTokens text.toList spans, ⟨rest, stop, left⟩) := by
  unfold op
  rw [run_bind_of_ok (run_get _)]
  simp only [Peek.op, h.peek htick, if_true, h.ahead, List.reverse_nil, List.nil_append]
  rfl

/-- **An operator is read again from its own tokens**, wherever they stand. -/
theorem op_run (s : Span) (rest : List Token) (stop : Span) (left : Option Span) {text : String}
    (hne : text.toList ≠ []) (htick : '\'' ∉ text.toList) :
    (op text).run ⟨operatorAt s text.toList ++ rest, stop, left⟩ =
      .ok (operatorAt s text.toList, ⟨rest, stop, left⟩) := by
  rw [op_run_spelled (.of_operatorAt s hne) htick, opTokens_replicate]

theorem op_eq_ok {text : String} {c c' : Cursor} {ts : List Token}
    (h : (op text).run c = .ok (ts, c')) :
    ∃ spans, opAhead text.toList c.rest [] = some (spans, c'.rest) ∧
      ts = opTokens text.toList spans := by
  unfold op at h
  rw [run_bind_of_ok (run_get _)] at h
  split at h
  · rename_i spans rest hahead
    rw [run_bind_of_ok (run_advance _ _)] at h
    obtain ⟨rfl, rfl⟩ := run_pure_eq_ok h
    split at hahead
    · exact ⟨spans, hahead, rfl⟩
    · cases hahead
  · cases h

/-- **What is read as an operator is spelled by the tokens that were taken**, where no invisible
group hides any. -/
theorem op_spelled {text : String} (hne : text.toList ≠ []) {c c' : Cursor} {ts : List Token}
    (hc : Visible c.rest) (h : (op text).run c = .ok (ts, c')) :
    ∃ front spans, OpSpelled text.toList front spans ∧ c.rest = front ++ c'.rest ∧
      ts = opTokens text.toList spans := by
  obtain ⟨spans, hahead, hts⟩ := op_eq_ok h
  obtain ⟨front, found, spelled, hrest, hspans⟩ := opAhead_eq_some hne hc hahead
  exact ⟨front, spans, hspans ▸ spelled, hrest, hts⟩

/-- An operator of one character is written as one token. -/
theorem op_single_eq_ok {text : String} {ch : Char} (htext : text.toList = [ch]) {c c' : Cursor}
    {ts : List Token} (h : (op text).run c = .ok (ts, c')) : ∃ s, ts = [.punct ch .alone s] := by
  obtain ⟨spans, hahead, rfl⟩ := op_eq_ok h
  rw [htext] at hahead ⊢
  simp only [opAhead] at hahead
  split at hahead
  · split at hahead
    · injection hahead with hahead
      injection hahead with hspans _
      rw [← hspans]
      exact ⟨_, rfl⟩
    · cases hahead
  · cases hahead

/-! ## 6. Groups -/

/-- A group is read by reading what is inside; what the inner parser leaves is noted. -/
theorem within_run {α : Type} {p : Parser α} {a : α} {d : Delimiter} (hd : d ≠ .invisible)
    {inner : List Token} {s : Span} {left : Option Span} {c' : Cursor}
    (h : p.run ⟨inner, s.last, left⟩ = .ok (a, c')) (rest : List Token) (stop : Span) :
    (within d p).run ⟨.group d inner s :: rest, stop, left⟩ =
      .ok ((a, s), ⟨rest, stop, c'.leftover.or (firstLeft c'.rest)⟩) := by
  unfold within
  rw [run_bind_of_ok (run_get _)]
  simp only [beq_iff_eq, if_neg hd, reveal_group hd, if_true]
  rw [run_bind_of_ok (run_set _ _), run_bind_of_ok h]
  rfl

/-- A group that was read was ahead. -/
theorem within_eq_ok {α : Type} {p : Parser α} {a : α} {d : Delimiter} (hd : d ≠ .invisible)
    {s : Span} {c c' : Cursor} (h : (within d p).run c = .ok ((a, s), c')) :
    ∃ inner, reveal c.rest = .group d inner s :: c'.rest := by
  unfold within at h
  rw [run_bind_of_ok (run_get _)] at h
  simp only [beq_iff_eq, if_neg hd] at h
  split at h
  · rename_i e inner s' rest hgroup
    split at h
    · rename_i he
      rw [run_bind_of_ok (run_set _ _)] at h
      obtain ⟨b, c₁, -, h⟩ := run_bind_eq_ok h
      rw [run_bind_of_ok (run_get _), run_bind_of_ok (run_set _ _)] at h
      obtain ⟨hpair, rfl⟩ := run_pure_eq_ok h
      injection hpair with _ hs
      subst he hs
      exact ⟨inner, hgroup⟩
    · cases h
  · cases h

end Parser

/-! ## 7. Whole phrases -/

theorem parse_eq_ok {α : Type} {p : Rules → Parser α} {ts : List Token} {a : α}
    (h : parse p ts = .ok a) :
    ∃ c, (p (.forTokens ts)).run ⟨ts, .callSite, none⟩ = .ok (a, c) ∧
      c.leftover.or (Parser.firstLeft c.rest) = none := by
  unfold parse at h
  split at h
  · cases h
  · rename_i b c hrun
    split at h
    · cases h
    · rename_i hleft
      injection h with h
      subst h
      exact ⟨c, hrun, hleft⟩

end Graft
