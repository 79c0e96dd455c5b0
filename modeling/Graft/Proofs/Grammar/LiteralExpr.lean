import Graft.Proofs.Grammar.Runs

/-!
# A literal is an expression

A literal token that stands alone is read as the expression that it is, with the value it spells.
One that spells no value ends the reading of whatever it is part of. The rules for expressions ask
for many things in front of and behind a literal; `Unmarked` says once that none of them is there.

* `Unmarked.op`, `Unmarked.word`, `Unmarked.group`: what is not found in front of a literal or at
  the end of the tokens.
* `expr_run_known`, `expr_run_unknown`: the rule for expressions reads a literal of known form and
  stops at one of unknown form.
* `terminated_run_one`, `terminated_run_error`: a list with one entry, and one that fails at once.
* **`Expr.parse_literal`**: a literal token by itself is an expression.
-/

namespace Graft

/-! ## 1. Nothing but a literal ahead -/

/-- Tokens that are at their end or go on with a literal. -/
inductive Unmarked : List Token → Prop where
  | nil : Unmarked []
  | literal (text : String) (s : Span) (rest : List Token) : Unmarked (.literal text s :: rest)

namespace Unmarked

variable {ts : List Token}

theorem reveal_eq (h : Unmarked ts) : reveal ts = ts := by
  cases h with
  | nil => exact reveal_nil
  | literal text s rest =>
    rw [reveal]
    intro _ _ _ h
    cases h

theorem op (h : Unmarked ts) (text : String) : Peek.op text ts = false := by
  unfold Peek.op
  cases text.toList with
  | nil => rfl
  | cons ch more =>
    cases more with
    | nil =>
      rw [Peek.ofChars, h.reveal_eq]
      cases h <;> rfl
    | cons next rest =>
      rw [Peek.ofChars, h.reveal_eq]
      · cases h <;> rfl
      · exact List.cons_ne_nil next rest

theorem word (h : Unmarked ts) (text : String) : Peek.word text ts = false := by
  unfold Peek.word
  rw [h.reveal_eq]
  cases h <;> rfl

theorem group (h : Unmarked ts) (d : Delimiter) : Peek.group d ts = false := by
  unfold Peek.group
  rw [h.reveal_eq, ite_self]
  cases h <;> rfl

end Unmarked

/-! ## 2. Steps that are not taken -/

namespace Parser

variable {α β : Type} {c c' : Cursor}

/-- What depends on a test that fails goes on with the alternative. -/
theorem run_peek_else {q : Peek} (h : q c.rest = false) (p p' : Parser β) :
    (do if ← peek q then p else p').run c = p'.run c := by
  rw [run_bind_of_ok (run_peek q c), h]
  rfl

theorem run_map_of_ok {p : Parser α} {f : α → β} {a : α} (h : p.run c = .ok (a, c')) :
    (f <$> p).run c = .ok (f a, c') := by
  rw [StateT.run_map, h]
  rfl

theorem run_map_of_error {p : Parser α} {f : α → β} {e : SyntaxError} (h : p.run c = .error e) :
    (f <$> p).run c = .error e := by
  rw [StateT.run_map, h]
  rfl

theorem loop_run_none {step : Parser (Option α)} (h : step.run c = .ok (none, c')) :
    (loop step).run c = .ok ([], c') := by
  unfold loop
  rw [run_bind_of_ok (run_get c), loopN, run_bind_of_ok h]
  rfl

theorem iterate_run_none {step : α → Parser (Option α)} {a : α}
    (h : (step a).run c = .ok (none, c')) : (iterate step a).run c = .ok (a, c') := by
  unfold iterate
  rw [run_bind_of_ok (run_get c), iterateN, run_bind_of_ok h]
  rfl

end Parser

namespace Grammar

open Graft.Parser

variable {c : Cursor}

theorem exprAttributes_run (h : Unmarked c.rest) : exprAttributes.run c = .ok ([], c) := by
  apply loop_run_none
  rw [run_peek_else (h.group _), run_peek_else (h.op _)]
  rfl

theorem trailers_run (h : Unmarked c.rest) (r : Rules) (e : Expr) :
    (trailers r e).run c = .ok (e, c) := by
  apply iterate_run_none
  rw [run_peek_else (h.group _), run_bind_of_ok (run_peek _ _), h.op]
  simp only [Bool.false_and, Bool.false_eq_true, if_false]
  rw [run_peek_else (h.group _), run_peek_else (h.op _)]
  rfl

theorem climb_run (h : Unmarked c.rest) (r : Rules) (structs : Bool) (base : Nat) (e : Expr) :
    (climb r structs base e).run c = .ok (e, c) := by
  apply iterate_run_none
  have noOperator : binaryOp? c.rest = none := by
    rw [binaryOp?, List.find?_eq_none]
    intro x _
    simp only [h.op, Bool.false_eq_true, not_false_eq_true]
  rw [run_bind_of_ok (run_get c)]
  simp only [noOperator, Option.filter_none, h.op, h.word, Peek.colon, Peek.butNot, Bool.and_false,
    Bool.false_and, Bool.false_eq_true, if_false]
  rfl

/-- In front of a literal there is no prefix operator. -/
theorem unary_run (h : Unmarked c.rest) (r : Rules) (structs : Bool) :
    (unary r structs).run c = (trailed r structs c []).run c := by
  unfold unary
  rw [run_bind_of_ok (run_get _), run_bind_of_ok (exprAttributes_run h)]
  rw [run_peek_else (h.op _), run_peek_else (h.word _), run_peek_else (h.op _),
    run_peek_else (h.op _), run_peek_else (h.op _)]

theorem peekGroupExpr_eq {ts : List Token} (h : Unmarked ts) : peekGroupExpr ts = false := by
  rw [peekGroupExpr, h.group]
  rfl

/-! ## 3. A literal of known form -/

section Known

variable {text : String} {value : Lit} (known : Lit.read? text = some value) {s : Span}
  {rest : List Token}

include known

theorem litAhead_known :
    litAhead (.literal text s :: rest) = .token (.literal text s) value rest := by
  unfold litAhead
  rw [(Unmarked.literal text s rest).reveal_eq]
  simp only [known]

theorem peekLit_run_known (stop : Span) (left : Option Span) :
    peekLit.run ⟨.literal text s :: rest, stop, left⟩ =
      .ok (true, ⟨.literal text s :: rest, stop, left⟩) := by
  unfold peekLit
  rw [run_bind_of_ok (run_get _), litAhead_known known]
  rfl

/-- A literal is an atom. -/
theorem atom_run_known (r : Rules) (structs : Bool) (stop : Span) (left : Option Span) :
    (atom r structs).run ⟨.literal text s :: rest, stop, left⟩ =
      .ok (.lit [] (.literal text s) value, ⟨rest, stop, left⟩) := by
  unfold atom
  rw [run_peek_else (peekGroupExpr_eq (.literal text s rest)),
    run_bind_of_ok (peekLit_run_known known stop left)]
  show lit.run _ = _
  unfold lit
  rw [run_bind_of_ok (run_get _), litAhead_known known]
  rfl

/-- **A literal with nothing but a literal or the end behind it is an expression.** -/
theorem expr_run_known (behind : Unmarked rest) (r : Rules) (structs : Bool) (stop : Span)
    (left : Option Span) :
    (expr r.above structs).run ⟨.literal text s :: rest, stop, left⟩ =
      .ok (.lit [] (.literal text s) value, ⟨rest, stop, left⟩) := by
  have first : (r.above.unary structs).run ⟨.literal text s :: rest, stop, left⟩ =
      .ok (.lit [] (.literal text s) value, ⟨rest, stop, left⟩) := by
    show (unary r structs).run _ = _
    rw [unary_run (.literal text s rest), trailed,
      run_bind_of_ok (atom_run_known known r structs stop left),
      run_bind_of_ok (trailers_run behind r _)]
    rfl
  unfold expr
  rw [run_bind_of_ok first]
  exact climb_run behind r.above structs precAny _

end Known

/-! ## 4. A literal of unknown form -/

section Unknown

variable {text : String} (unknown : Lit.read? text = none) {s : Span} {rest : List Token}

include unknown

theorem peekLit_run_unknown (stop : Span) (left : Option Span) :
    peekLit.run ⟨.literal text s :: rest, stop, left⟩ = .error (.unknownLiteral text) := by
  have ahead : litAhead (.literal text s :: rest) = .unknown text := by
    unfold litAhead
    rw [(Unmarked.literal text s rest).reveal_eq]
    simp only [unknown]
  unfold peekLit
  rw [run_bind_of_ok (run_get _), ahead]
  rfl

/-- **A literal of unknown form stops the reading of an expression**, whatever follows it. -/
theorem expr_run_unknown (r : Rules) (structs : Bool) (stop : Span) (left : Option Span) :
    (expr r.above structs).run ⟨.literal text s :: rest, stop, left⟩ =
      .error (.unknownLiteral text) := by
  have stops : (atom r structs).run ⟨.literal text s :: rest, stop, left⟩ =
      .error (.unknownLiteral text) := by
    unfold atom
    rw [run_peek_else (peekGroupExpr_eq (.literal text s rest)),
      run_bind_of_error (peekLit_run_unknown unknown stop left)]
  have first : (r.above.unary structs).run ⟨.literal text s :: rest, stop, left⟩ =
      .error (.unknownLiteral text) := by
    show (unary r structs).run _ = _
    rw [unary_run (.literal text s rest), trailed, run_bind_of_error stops]
  unfold expr
  rw [run_bind_of_error first]

end Unknown

end Grammar

/-! ## 5. Whole phrases -/

namespace Parser

variable {α : Type} {entry : Parser α} {c c' : Cursor}

theorem terminated_run_one {a : α} (ahead : c.rest ≠ []) (h : entry.run c = .ok (a, c'))
    (ends : c'.rest = []) : (terminated entry).run c = .ok (([a], false), c') := by
  have more : Peek.atEnd c.rest = false := List.isEmpty_eq_false_iff.mpr ahead
  have noMore : Peek.atEnd c'.rest = true := List.isEmpty_iff.mpr ends
  have entries (n : Nat) :
      (separatedN "," (peek Peek.atEnd) entry (n + 1)).run c = .ok (([a], false), c') := by
    rw [separatedN, run_peek_else more, run_bind_of_ok h, run_bind_of_ok (run_peek _ _), noMore]
    rfl
  unfold terminated separated
  rw [run_bind_of_ok (run_get c), run_bind_of_ok (entries _)]
  rfl

theorem terminated_run_error {e : SyntaxError} (ahead : c.rest ≠ []) (h : entry.run c = .error e) :
    (terminated entry).run c = .error e := by
  have more : Peek.atEnd c.rest = false := List.isEmpty_eq_false_iff.mpr ahead
  unfold terminated separated
  rw [run_bind_of_ok (run_get c)]
  apply run_bind_of_error
  rw [separatedN, run_peek_else more]
  exact run_bind_of_error h

end Parser

/-- A parser that goes over all tokens reads a whole phrase. -/
theorem parse_of_run {α : Type} {p : Rules → Parser α} {ts : List Token} {a : α} {stop : Span}
    (h : (p (.forTokens ts)).run ⟨ts, .callSite, none⟩ = .ok (a, ⟨[], stop, none⟩)) :
    parse p ts = .ok a := by
  have nothing : (none : Option Span).or (Parser.firstLeft []) = none := by
    rw [Parser.firstLeft, reveal_nil]
    rfl
  unfold parse
  rw [h]
  simp only [nothing]

/-- A parser that fails reads no phrase. -/
theorem parse_of_error {α : Type} {p : Rules → Parser α} {ts : List Token} {e : SyntaxError}
    (h : (p (.forTokens ts)).run ⟨ts, .callSite, none⟩ = .error e) : parse p ts = .error e := by
  unfold parse
  rw [h]

/-- **A literal token by itself is an expression**, with the value that it spells. -/
theorem Expr.parse_literal {text : String} {value : Lit} (known : Lit.read? text = some value)
    (s : Span) : Expr.parse [.literal text s] = .ok (.lit [] (.literal text s) value) :=
  parse_of_run (Grammar.expr_run_known known .nil (.atDepth 19) true .callSite none)

end Graft
