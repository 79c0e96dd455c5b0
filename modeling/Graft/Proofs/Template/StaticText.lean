import Graft.Proofs.Grammar.LiteralExpr
import Graft.Proofs.Token.QuotedText
import Graft.Transform.Basic

/-!
# Which expressions are texts without holes

A URL, a warning and a key have to be given as texts that are known before the program runs. Here
it is said, without pieces and their joining, which expressions are such texts:

* `PlainTemplate`: a format template in which no brace opens a hole, and what it stands for;
* `ConcatText`: literals in a row, and the text they make together;
* `StaticForm`: the expressions that are texts, under any nesting of parentheses;
* `StopsAt`: the one way in which reading does not come to an answer at all, a literal of unknown
  form among the arguments of an invocation.

`static_text_exact` is the main statement: a text is found in exactly the expressions of static
form, with exactly their text, and every other expression is answered as not static, unless the
reading stops. The proof goes through `Template.chars?`, the characters of a template that has no
holes: joining pieces does not change them (`text?_orEmpty_joinTexts`), so the scanner of format
templates and the concatenation are each compared with their relation piece by piece. That the
condition on the reading cannot be left out is shown by `foreignText_not_answered`.
-/

namespace Graft

/-! ## 1. The forms of a static text -/

/-- A format template in which no brace opens a hole, with the characters it stands for. -/
inductive PlainTemplate : List Char → List Char → Prop where
  | nil : PlainTemplate [] []
  /-- Two opening braces are one. -/
  | opening {cs s : List Char} (h : PlainTemplate cs s) :
      PlainTemplate ('\x7b' :: '\x7b' :: cs) ('\x7b' :: s)
  /-- Two closing braces are one. -/
  | closing {cs s : List Char} (h : PlainTemplate cs s) :
      PlainTemplate ('\x7d' :: '\x7d' :: cs) ('\x7d' :: s)
  /-- A closing brace by itself is kept. -/
  | lone {cs s : List Char} (alone : cs.head? ≠ some '\x7d') (h : PlainTemplate cs s) :
      PlainTemplate ('\x7d' :: cs) ('\x7d' :: s)
  | other {c : Char} {cs s : List Char} (noOpening : c ≠ '\x7b') (noClosing : c ≠ '\x7d')
      (h : PlainTemplate cs s) : PlainTemplate (c :: cs) (c :: s)

/-- The text of a literal that has one: a number's is its decimal digits. -/
inductive Lit.HasText : Lit → String → Prop where
  | str (value : String) : HasText (.str value) value
  | char (c : Char) : HasText (.char c) (String.singleton c)
  | int (digits suffix : String) : HasText (.int digits suffix) digits
  | float (digits suffix : String) : HasText (.float digits suffix) digits
  | yes : HasText (.bool true) "true"
  | no : HasText (.bool false) "false"

/-- Expressions that are directly literals, with the characters of their texts in a row. -/
inductive ConcatText : List Expr → List Char → Prop where
  | nil : ConcatText [] []
  | cons {attrs : List Attribute} {token : Token} {value : Lit} {text : String} {args : List Expr}
      {s : List Char} (first : value.HasText text) (more : ConcatText args s) :
      ConcatText (.lit attrs token value :: args) (text.toList ++ s)

/-- The expressions that are texts without holes, with their texts. -/
inductive StaticForm : Expr → String → Prop where
  | literal (attrs : List Attribute) (token : Token) (value : String) :
      StaticForm (.lit attrs token (.str value)) value
  | paren {attrs : List Attribute} {span : Span} {e : Expr} {s : String} (h : StaticForm e s) :
      StaticForm (.paren attrs span e) s
  | group {attrs : List Attribute} {span : Span} {e : Expr} {s : String} (h : StaticForm e s) :
      StaticForm (.group attrs span e) s
  | format {attrs : List Attribute} {m : MacroCall} {name : Ident} {argAttrs : List Attribute}
      {token : Token} {template : String} {more : List Expr} {s : List Char}
      (bare : m.path.single? = some name) (named : name.text = "format")
      (args : Template.callArgs m = .ok (.lit argAttrs token (.str template) :: more))
      (plain : PlainTemplate template.toList s) : StaticForm (.call attrs m) (String.ofList s)
  | concat {attrs : List Attribute} {m : MacroCall} {name : Ident} {exprs : List Expr}
      {s : List Char} (bare : m.path.single? = some name) (named : name.text = "concat")
      (args : Template.callArgs m = .ok exprs) (texts : ConcatText exprs s) :
      StaticForm (.call attrs m) (String.ofList s)

/-- The expressions whose reading stops, at a literal of unknown form: invocations of a bare name
whose arguments cannot be read because of it. -/
inductive StopsAt : Expr → String → Prop where
  | paren {attrs : List Attribute} {span : Span} {e : Expr} {t : String} (h : StopsAt e t) :
      StopsAt (.paren attrs span e) t
  | group {attrs : List Attribute} {span : Span} {e : Expr} {t : String} (h : StopsAt e t) :
      StopsAt (.group attrs span e) t
  | call {attrs : List Attribute} {m : MacroCall} {name : Ident} {t : String}
      (bare : m.path.single? = some name)
      (args : Template.callArgs m = .error (.unknownLiteral t)) : StopsAt (.call attrs m) t

/-- An expression is answered: one of static form by its text, any other by the problem that was
asked to be reported about it. -/
def Answered (e : Expr) : Prop :=
  ∀ otherwise, (∃ s, StaticForm e s ∧ staticText e otherwise = .ok s) ∨
    (¬ ∃ s, StaticForm e s) ∧ staticText e otherwise = .error (.on e.tokens otherwise)

/-! ## 2. The characters of a template -/

namespace Template

/-- The characters of a template without holes, however they are cut into pieces. -/
def chars? : Template → Option (List Char)
  | [] => some []
  | .text chars :: rest => (chars? rest).map (chars ++ ·)
  | .hole _ :: _ => none

/-- **A template is one text once its texts are joined if it has no holes**, and the text has its
characters. -/
theorem text?_orEmpty_joinTexts (ps : Template) :
    text? (orEmpty (joinTexts ps)) = (chars? ps).map String.ofList := by
  induction ps with
  | nil => rfl
  | cons p ps ih =>
    cases p with
    | hole name => rfl
    | text chars =>
      -- Only the beginning of what was joined so far decides what happens to one more text.
      rw [joinTexts, chars?, Option.map_map]
      match h : joinTexts ps with
      | [] =>
        rw [h] at ih
        obtain ⟨t, ht, hs⟩ := Option.map_eq_some_iff.mp ih.symm
        rw [ht, String.ofList_eq_empty_iff.mp hs]
        simp [consText, orEmpty, text?]
      | [.text more] =>
        rw [h] at ih
        obtain ⟨t, ht, hs⟩ := Option.map_eq_some_iff.mp ih.symm
        rw [ht, String.ofList_injective hs]
        rfl
      | .text more :: p :: rest =>
        rw [h] at ih
        rw [Option.map_eq_none_iff.mp ih.symm]
        rfl
      | .hole name :: rest =>
        rw [h] at ih
        rw [Option.map_eq_none_iff.mp ih.symm]
        rfl

/-- One character in front of a template is one in front of its characters. -/
theorem chars?_cons_char {c : Char} {ps : Template} {s : List Char} :
    chars? (.text [c] :: ps) = some s ↔ ∃ t, chars? ps = some t ∧ s = c :: t := by
  rw [chars?, Option.map_eq_some_iff]
  exact exists_congr fun t => and_congr_right fun _ => eq_comm

/-- **The scanner leaves no hole in exactly the plain templates.** -/
theorem chars?_scan (cs s : List Char) : chars? (scan cs) = some s ↔ PlainTemplate cs s := by
  fun_induction scan cs generalizing s with
  | case1 =>
    constructor
    · rintro ⟨⟩
      exact .nil
    · rintro ⟨⟩
      rfl
  | case2 rest ih =>
    rw [chars?_cons_char]
    constructor
    · rintro ⟨t, ht, rfl⟩
      exact .opening ((ih t).mp ht)
    · intro h
      cases h with
      | opening h => exact ⟨_, (ih _).mpr h, rfl⟩
      | other noOpening _ _ => exact absurd rfl noOpening
  | case3 rest ih =>
    rw [chars?_cons_char]
    constructor
    · rintro ⟨t, ht, rfl⟩
      exact .closing ((ih t).mp ht)
    · intro h
      cases h with
      | closing h => exact ⟨_, (ih _).mpr h, rfl⟩
      | lone alone _ => exact absurd rfl alone
      | other _ noClosing _ => exact absurd rfl noClosing
  | case4 rest single ih =>
    constructor
    · rintro ⟨⟩
    · intro h
      cases h with
      | opening h => exact absurd rfl (single _)
      | other noOpening _ _ => exact absurd rfl noOpening
  | case5 c rest noTwoOpening noTwoClosing noOpening ih =>
    rw [chars?_cons_char]
    constructor
    · rintro ⟨t, ht, rfl⟩
      -- A closing brace that comes here has no second one behind it.
      by_cases hc : c = '\x7d'
      · subst hc
        refine .lone ?_ ((ih t).mp ht)
        intro hh
        obtain ⟨more, rfl⟩ := List.head?_eq_some_iff.mp hh
        exact noTwoClosing more rfl rfl
      · exact .other noOpening hc ((ih t).mp ht)
    · intro h
      cases h with
      | opening h => exact absurd rfl noOpening
      | closing h => exact absurd rfl (noTwoClosing _ rfl)
      | lone _ h => exact ⟨_, (ih _).mpr h, rfl⟩
      | other _ _ h => exact ⟨_, (ih _).mpr h, rfl⟩

/-- What a literal contributes is its text. -/
theorem content?_eq_some {v : Lit} {text : String} : v.content? = some text ↔ v.HasText text := by
  constructor
  · intro h
    cases v with
    | bool b => cases b <;> cases h <;> constructor
    | _ => cases h <;> constructor
  · rintro ⟨⟩ <;> rfl

/-- The arguments that contribute a text are the literals that have one. -/
theorem pieceOf_eq_text {e : Expr} {chars : List Char} :
    pieceOf e = .text chars ↔ ∃ attrs token value text,
      e = .lit attrs token value ∧ value.HasText text ∧ text.toList = chars := by
  constructor
  · intro h
    cases e with
    | lit attrs token value =>
      rw [pieceOf] at h
      split at h
      next text ht =>
        injection h with h
        exact ⟨attrs, token, value, text, rfl, content?_eq_some.mp ht, h⟩
      next => nomatch h
    | _ => nomatch h
  · rintro ⟨attrs, token, value, text, rfl, ht, rfl⟩
    rw [pieceOf, content?_eq_some.mpr ht]

/-- **A concatenation has no hole if its arguments are literals with texts.** -/
theorem chars?_pieces (args : List Expr) (s : List Char) :
    chars? (args.map pieceOf) = some s ↔ ConcatText args s := by
  induction args generalizing s with
  | nil =>
    constructor
    · rintro ⟨⟩
      exact .nil
    · rintro ⟨⟩
      rfl
  | cons e args ih =>
    rw [List.map_cons]
    constructor
    · intro h
      match hp : pieceOf e with
      | .text chars =>
        obtain ⟨attrs, token, value, text, rfl, ht, rfl⟩ := pieceOf_eq_text.mp hp
        rw [hp, chars?] at h
        obtain ⟨t, hargs, rfl⟩ := Option.map_eq_some_iff.mp h
        exact .cons ht ((ih t).mp hargs)
      | .hole name =>
        rw [hp] at h
        nomatch h
    · intro h
      cases h with
      | @cons attrs token value text _ s first more =>
        rw [pieceOf_eq_text.mpr ⟨attrs, token, value, text, rfl, first, rfl⟩, chars?,
          (ih s).mpr more]
        rfl

/-- The text of a format template. -/
theorem text?_ofFormat {cs : List Char} {s : String} :
    text? (ofFormat cs) = some s ↔ ∃ t, PlainTemplate cs t ∧ String.ofList t = s := by
  rw [ofFormat, text?_orEmpty_joinTexts, Option.map_eq_some_iff]
  exact exists_congr fun t => and_congr_left' (chars?_scan cs t)

/-- The text of a concatenation. -/
theorem text?_ofConcat {args : List Expr} {s : String} :
    text? (ofConcat args) = some s ↔ ∃ t, ConcatText args t ∧ String.ofList t = s := by
  rw [ofConcat, text?_orEmpty_joinTexts, Option.map_eq_some_iff]
  exact exists_congr fun t => and_congr_left' (chars?_pieces args t)

/-! ## 3. Expressions -/

/-- **The text of an invocation**: that of a `format` whose first argument is a plain template, or
of a `concat` of literals. -/
theorem ofCall?_text {attrs : List Attribute} {m : MacroCall} {s : String} :
    (ofCall? m).bind text? = some s ↔ StaticForm (.call attrs m) s := by
  constructor
  · intro h
    obtain ⟨ps, hps, hs⟩ := Option.bind_eq_some_iff.mp h
    unfold ofCall? at hps
    split at hps
    next name args bare hargs =>
      split at hps
      next named =>
        obtain ⟨template, hfirst, rfl⟩ := Option.map_eq_some_iff.mp hps
        obtain ⟨t, plain, rfl⟩ := text?_ofFormat.mp hs
        obtain ⟨e, he, hstr⟩ := Option.bind_eq_some_iff.mp hfirst
        obtain ⟨more, rfl⟩ := List.head?_eq_some_iff.mp he
        unfold stringOf? at hstr
        split at hstr
        next argAttrs token value =>
          injection hstr with hvalue
          subst hvalue
          exact .format bare (beq_iff_eq.mp named) hargs plain
        next => nomatch hstr
      next =>
        split at hps
        next named =>
          cases hps
          obtain ⟨t, texts, rfl⟩ := text?_ofConcat.mp hs
          exact .concat bare (beq_iff_eq.mp named) hargs texts
        next => nomatch hps
    next => nomatch hps
  · intro h
    cases h with
    | @format _ _ name argAttrs token template more t bare named args plain =>
      have found : ofCall? m = some (ofFormat template.toList) := by
        simp only [ofCall?, bare, args, named, beq_self_eq_true, if_true]
        rfl
      rw [found]
      exact text?_ofFormat.mpr ⟨t, plain, rfl⟩
    | @concat _ _ name exprs t bare named args texts =>
      have found : ofCall? m = some (ofConcat exprs) := by
        simp only [ofCall?, bare, args, named, beq_self_eq_true, if_true]
        rfl
      rw [found]
      exact text?_ofConcat.mpr ⟨t, texts, rfl⟩

/-- **A text is found in exactly the expressions of static form.** -/
theorem static?_eq_some (e : Expr) (s : String) : static? e = some s ↔ StaticForm e s := by
  -- The recursion follows the parentheses only, so one case is left for all other expressions.
  induction e using ofExpr?.induct with
  | case1 attrs token value =>
    constructor
    · intro h
      have h : some (String.ofList value.toList) = some s := h
      rw [String.ofList_toList] at h
      cases h
      exact .literal attrs token _
    · rintro ⟨⟩
      exact congrArg some String.ofList_toList
  | case2 attrs span e ih =>
    refine Iff.trans ih ⟨.group, ?_⟩
    rintro ⟨⟩
    assumption
  | case3 attrs span e ih =>
    refine Iff.trans ih ⟨.paren, ?_⟩
    rintro ⟨⟩
    assumption
  | case4 attrs m => exact ofCall?_text
  | case5 e noLiteral noGroup noParen noCall =>
    have none : ofExpr? e = none := by
      unfold ofExpr?
      split <;> simp_all
    constructor
    · intro h
      rw [static?, none] at h
      nomatch h
    · intro h
      cases h with
      | literal attrs token value => exact absurd rfl (noLiteral _ _ _)
      | paren h => exact absurd rfl (noParen _ _ _)
      | group h => exact absurd rfl (noGroup _ _ _)
      | format => exact absurd rfl (noCall _ _)
      | concat => exact absurd rfl (noCall _ _)

/-- **The reading of an expression stops at exactly the literals of unknown form** among the
arguments of the invocation that it is. -/
theorem unreadable?_eq_some (e : Expr) (t : String) : unreadable? e = some t ↔ StopsAt e t := by
  induction e using unreadable?.induct with
  | case1 attrs span e ih =>
    refine Iff.trans ih ⟨.group, ?_⟩
    rintro ⟨⟩
    assumption
  | case2 attrs span e ih =>
    refine Iff.trans ih ⟨.paren, ?_⟩
    rintro ⟨⟩
    assumption
  | case3 attrs m name text hargs bare =>
    have found : unreadable? (.call attrs m) = some text := by
      simp only [unreadable?, bare, hargs]
    rw [found]
    constructor
    · rintro ⟨⟩
      exact .call bare hargs
    · rintro ⟨⟩
      next hargs' => rw [hargs] at hargs'; cases hargs'; rfl
  | case4 attrs m readable =>
    constructor
    · intro h
      unfold unreadable? at h
      split at h
      next name text bare hargs => exact (readable name text bare hargs).elim
      next => nomatch h
    · rintro ⟨⟩
      next name bare hargs => exact (readable name t bare hargs).elim
  | case5 e noGroup noParen noCall =>
    constructor
    · intro h
      unfold unreadable? at h
      split at h <;> simp_all
    · intro h
      cases h with
      | paren h => exact absurd rfl (noParen _ _ _)
      | group h => exact absurd rfl (noGroup _ _ _)
      | call => exact absurd rfl (noCall _ _)

end Template

/-! ## 4. Answers -/

/-- Where the reading stops there is no text. -/
theorem StopsAt.not_static {e : Expr} {t s : String} (h : StopsAt e t) : ¬ StaticForm e s := by
  induction h with
  | paren _ ih =>
    rintro ⟨⟩
    exact ih ‹_›
  | group _ ih =>
    rintro ⟨⟩
    exact ih ‹_›
  | call bare stopped =>
    rintro ⟨⟩ <;> simp_all

/-- The text that is asked for is found in exactly the expressions of static form. -/
theorem staticText_eq_ok {e : Expr} {otherwise : Problem} {s : String} :
    staticText e otherwise = .ok s ↔ StaticForm e s := by
  rw [staticText]
  cases stopped : Template.unreadable? e with
  | some t =>
    constructor
    · rintro ⟨⟩
    · intro h
      exact absurd h ((Template.unreadable?_eq_some e t).mp stopped).not_static
  | none =>
    rw [← Template.static?_eq_some]
    cases Template.static? e with
    | none => simp
    | some text => simp

/-- Without a stop, an expression that is not of static form is reported as asked. -/
theorem staticText_eq_error {e : Expr} (goes : ∀ t, ¬ StopsAt e t) (other : ∀ s, ¬ StaticForm e s)
    (otherwise : Problem) : staticText e otherwise = .error (.on e.tokens otherwise) := by
  have readable : Template.unreadable? e = none :=
    Option.eq_none_iff_forall_ne_some.mpr fun t ht =>
      goes t ((Template.unreadable?_eq_some e t).mp ht)
  have noText : Template.static? e = none :=
    Option.eq_none_iff_forall_ne_some.mpr fun s hs =>
      other s ((Template.static?_eq_some e s).mp hs)
  rw [staticText, readable, noText]

/-- A stop is reported as itself, whatever was asked. -/
theorem StopsAt.staticText_eq {e : Expr} {t : String} (h : StopsAt e t) (otherwise : Problem) :
    staticText e otherwise = .error (.ofSyntax (.unknownLiteral t)) := by
  rw [staticText, (Template.unreadable?_eq_some e t).mpr h]

/-- An expression is answered if its reading does not stop. -/
theorem answered_iff {e : Expr} : Answered e ↔ ∀ t, ¬ StopsAt e t := by
  constructor
  · intro h t stops
    -- A problem that cannot be mistaken for the stop: it is not about the grammar.
    obtain ⟨s, static, -⟩ | ⟨-, told⟩ := h .missingDefault
    · exact stops.not_static static
    · rw [stops.staticText_eq, Except.error.injEq] at told
      have := congrArg Diagnostic.problem told
      unfold Diagnostic.on at this
      split at this <;> cases this
  · intro goes otherwise
    by_cases static : ∃ s, StaticForm e s
    · obtain ⟨s, hs⟩ := static
      exact .inl ⟨s, hs, staticText_eq_ok.mpr hs⟩
    · exact .inr ⟨static, staticText_eq_error goes (not_exists.mp static) otherwise⟩

/-- **Static texts are found exactly.** For every expression, the text found is that of its static
form, if it has one; and every expression is answered, one without a static form by the problem
that was asked for, unless its reading stops at a literal of unknown form. -/
theorem static_text_exact (e : Expr) :
    (∀ s, Template.static? e = some s ↔ StaticForm e s) ∧
    (∀ otherwise s, staticText e otherwise = .ok s ↔ StaticForm e s) ∧
    (∀ t, Template.unreadable? e = some t ↔ StopsAt e t) ∧
    (∀ t, StopsAt e t → ∀ otherwise,
      staticText e otherwise = .error (.ofSyntax (.unknownLiteral t))) ∧
    (Answered e ↔ ∀ t, ¬ StopsAt e t) :=
  ⟨Template.static?_eq_some e, fun _ _ => staticText_eq_ok, Template.unreadable?_eq_some e,
    fun _ h => h.staticText_eq, answered_iff⟩

/-! ## 5. Arguments that are one literal -/

namespace Template

variable {m : MacroCall} {text : String} {s : Span}

/-- A literal by itself is the only argument. -/
theorem callArgs_literal {value : Lit} (tokens : m.tokens = [.literal text s])
    (known : Lit.read? text = some value) :
    callArgs m = .ok [.lit [] (.literal text s) value] := by
  unfold callArgs
  rw [tokens]
  exact parse_of_run (Parser.run_map_of_ok (Parser.terminated_run_one (List.cons_ne_nil _ _)
    (Grammar.expr_run_known known .nil (.atDepth 19) true .callSite none) rfl))

/-- Arguments that begin with a literal of unknown form cannot be read. -/
theorem callArgs_unknown {rest : List Token} (tokens : m.tokens = .literal text s :: rest)
    (unknown : Lit.read? text = none) : callArgs m = .error (.unknownLiteral text) := by
  unfold callArgs
  rw [tokens]
  exact parse_of_error (Parser.run_map_of_error (Parser.terminated_run_error (List.cons_ne_nil _ _)
    (Grammar.expr_run_unknown unknown _ true .callSite none)))

end Template

/-- An invocation of a bare name with one literal between parentheses. -/
def literalCall (name text : String) : MacroCall where
  path := ⟨none, [.new name]⟩
  bang := .callSite
  delim := .paren
  span := .callSite
  tokens := [.literal text .callSite]

/-- The expression `(format!("{{a}} }"))`. -/
def escapedBraces : Expr :=
  .paren [] .callSite (.call [] (literalCall "format" (Quoted.literal "\x7b\x7ba\x7d\x7d \x7d")))

/-- Doubled braces and one that stands alone are a static text. -/
theorem escapedBraces_static_text :
    StaticForm escapedBraces "\x7ba\x7d \x7d" ∧
    Template.static? escapedBraces = some "\x7ba\x7d \x7d" ∧ Answered escapedBraces := by
  have plain : PlainTemplate "\x7b\x7ba\x7d\x7d \x7d".toList ['\x7b', 'a', '\x7d', ' ', '\x7d'] :=
    .opening (.other (by decide) (by decide) (.closing (.other (by decide) (by decide)
      (.lone (by decide) .nil))))
  have static : StaticForm escapedBraces "\x7ba\x7d \x7d" :=
    .paren (.format rfl rfl (Template.callArgs_literal rfl (Lit.read?_literal _)) plain)
  obtain ⟨found, -, -, -, answered⟩ := static_text_exact escapedBraces
  exact ⟨static, (found _).mpr static, answered.mpr fun t stops => stops.not_static static⟩

/-- **Not every expression is answered**: reading the arguments of `format!(c"abc")` stops at the
text for C. -/
theorem foreignText_not_answered : ¬ Answered (.call [] (literalCall "format" "c\"abc\"")) := by
  intro h
  exact answered_iff.mp h "c\"abc\"" (.call rfl (Template.callArgs_unknown rfl rfl))

end Graft
