import Graft.Proofs.Grammar.LiteralExpr
import Graft.Proofs.Template.StaticText
import Graft.Proofs.Token.QuotedText
import Graft.Proofs.Transform.Replies

/-!
# Emitted literals say what was checked

Some transforms check a text while expanding and write it into the code that they emit. The code is
printed and read again, so it has to be shown that the text which arrives there is the one that was
checked.

* `Token.ReadsAs`: a token, printed and read again, is a literal with this text.
* `quotedToken_readsAs`: the literal of a text reads as this text and no other, for every text.
* `UrlTold`, `WarningTold`, `KeyTold`, `PairTold`: where the literals of four transforms stand in
  their replies, and what they read as.
* **`emitted_literals_carry_text`**: every reply of these transforms is of this form.
-/

namespace Graft

/-! ## 1. Printing and reading again -/

/-- A token that is printed as a string literal, which reads again as this text: the printed form is
one expression, and this expression is the text. -/
def Token.ReadsAs (t : Token) (text : String) : Prop :=
  ∀ source, ∃ ts token value, Token.lex? source (Token.render [t]) = some ts ∧
    Expr.parse ts = .ok (.lit [] token (.str value)) ∧
    Template.static? (.lit [] token (.str value)) = some text

/-- A token reads as one text at most. -/
theorem Token.ReadsAs.unique {t : Token} {a b : String} (ha : t.ReadsAs a) (hb : t.ReadsAs b) :
    a = b := by
  obtain ⟨ts, token, value, lexed, parsed, texta⟩ := ha ""
  obtain ⟨ts', token', value', lexed', parsed', textb⟩ := hb ""
  rw [lexed, Option.some.injEq] at lexed'
  rw [lexed'] at parsed
  rw [parsed, Except.ok.injEq] at parsed'
  rw [parsed', textb, Option.some.injEq] at texta
  exact texta.symm

/-- **The literal of a text reads as exactly this text.** -/
theorem quotedToken_readsAs {s v : String} : (quotedToken s).ReadsAs v ↔ v = s := by
  have self : (quotedToken s).ReadsAs s := by
    intro source
    exact ⟨_, _, s, Token.lex?_literal source s, Expr.parse_literal (Lit.read?_literal s) _,
      (Template.static?_eq_some _ s).mpr (.literal _ _ s)⟩
  constructor
  · intro h
    exact h.unique self
  · rintro rfl
    exact self

/-- A text that was found while expanding is the text of the expression. -/
theorem static?_of_staticText {e : Expr} {otherwise : Problem} {s : String}
    (h : staticText e otherwise = .ok s) : Template.static? e = some s :=
  (Template.static?_eq_some e s).mpr (staticText_eq_ok.mp h)

/-! ## 2. URLs -/

/-- The expression of a URL holds the text of the argument as the only operand of its reader, which
does not fail on anything that this operand reads as. -/
def UrlTold (r : Request) (reply : Reply) : Prop :=
  ∃ e text operand rest, r.arguments.single? = some e ∧ Template.static? e = some text ∧
    reply.addition = .expression
      (code ":: playtomic :: __private :: Url :: parse" ++ parens [operand] :: rest) ∧
    operand.ReadsAs text ∧ ∀ v, operand.ReadsAs v → ∃ url, Url.read v.toList = .ok url

theorem Url.read_of_check {cs : List Char} (h : Url.check cs = none) :
    ∃ url, Url.read cs = .ok url := by
  unfold Url.check at h
  split at h
  next url hurl => exact ⟨url, hurl⟩
  next => nomatch h

theorem Transform.urlTokens_eq (text : String) :
    ∃ rest, urlTokens text =
      code ":: playtomic :: __private :: Url :: parse" ++ parens [quotedToken text] :: rest := by
  unfold urlTokens
  rw [List.append_assoc, List.append_assoc]
  exact ⟨_, rfl⟩

theorem Transform.urlTold {r : Request} {reply : Reply}
    (h : Transform.validatedUrl.run r = .ok reply) : UrlTold r reply := by
  cases Transform.run_replies h with
  | @url e text arg static valid =>
    obtain ⟨rest, shape⟩ := urlTokens_eq text
    refine ⟨e, text, quotedToken text, rest, arg, static?_of_staticText static,
      congrArg Addition.expression shape, quotedToken_readsAs.mpr rfl, ?_⟩
    intro v hv
    rw [quotedToken_readsAs.mp hv]
    exact Url.read_of_check valid

/-! ## 3. Warnings -/

/-- The declaration that a warning leaves is deprecated, and the note of this is the message of the
one warning that is reported, which is the text of the argument. -/
def WarningTold (r : Request) (reply : Reply) : Prop :=
  ∃ e note rest warning, r.arguments.single? = some e ∧
    reply.addition = .declarations [code "const _ :" ++ [parens []] ++ operator "=" ++
      [braces ((Attribute.new "deprecated" [parens (code "note =" ++ [note])]).render ++ rest)] ++
      operator ";"] ∧
    reply.notes = [warning] ∧ warning.problem.severity = .warning ∧
    Template.static? e = some warning.problem.message ∧ note.ReadsAs warning.problem.message

theorem Transform.deprecatedUse_eq (text : String) :
    ∃ rest, deprecatedUse text = code "const _ :" ++ [parens []] ++ operator "=" ++
      [braces ((Attribute.new "deprecated" [parens (code "note =" ++ [quotedToken text])]).render ++
        rest)] ++ operator ";" := by
  unfold deprecatedUse
  simp only [List.append_assoc]
  exact ⟨_, rfl⟩

theorem Transform.warningTold {r : Request} {reply : Reply}
    (h : Transform.warning.run r = .ok reply) : WarningTold r reply := by
  cases Transform.run_replies h with
  | @warning e text arg static =>
    obtain ⟨rest, shape⟩ := deprecatedUse_eq text
    refine ⟨e, quotedToken text, rest, _, arg, congrArg (Addition.declarations [·]) shape, rfl,
      Diagnostic.severity_warning e.tokens text, ?_, ?_⟩
    · rw [Diagnostic.problem_on]
      exact static?_of_staticText static
    · rw [Diagnostic.problem_on]
      exact quotedToken_readsAs.mpr rfl

/-! ## 4. Keys -/

/-- The getter and the setter of a property name the same key: the text of the argument `key` if
there is one, else the name of the property. -/
def KeyTold (r : Request) (reply : Reply) : Prop :=
  ∃ d key text getterHead setterHead store rest, r.site = .property d ∧
    reply.addition = .accessors
      (getterHead ++ [braces (Accessors.useStore ++ code "let store = &" ++ store ++ operator ";" ++
        code "let key =" ++ [key] ++ operator ";" ++ rest)])
      (setterHead ++ [braces (Accessors.useStore ++ code "let store = &" ++ store ++ operator ";" ++
        code "store . set" ++ [parens (code "new_value ," ++ [key])] ++ operator ";")]) ∧
    key.ReadsAs text ∧
    (∀ e, r.arguments.labeled "key" = some e → Template.static? e = some text) ∧
    (r.arguments.labeled "key" = none → text = d.sig.ident.unraw)

theorem Method.tokens_eq (m : Method) : ∃ head, m.tokens = head ++ [braces m.body] := ⟨_, rfl⟩

theorem Accessors.getterBody_eq (a : Accessors) :
    ∃ rest, a.getterBody = useStore ++ code "let store = &" ++ a.store ++ operator ";" ++
      code "let key =" ++ [quotedToken a.key] ++ operator ";" ++ rest := by
  unfold getterBody letStore
  simp only [List.append_assoc]
  exact ⟨_, rfl⟩

theorem Accessors.setterBody_eq (a : Accessors) :
    a.setterBody = useStore ++ code "let store = &" ++ a.store ++ operator ";" ++
      code "store . set" ++ [parens (code "new_value ," ++ [quotedToken a.key])] ++
      operator ";" := by
  unfold setterBody letStore
  simp only [List.append_assoc]

theorem Transform.keyTold {r : Request} {reply : Reply}
    (h : Transform.storedAccess.run r = .ok reply) : KeyTold r reply := by
  cases Transform.run_replies h with
  | @accessors d a site made =>
    obtain ⟨-, -, -, hkey⟩ := Transform.accessorsOf_eq_ok made
    obtain ⟨getterHead, getter⟩ := a.getter.tokens_eq
    obtain ⟨setterHead, setter⟩ := a.setter.tokens_eq
    obtain ⟨rest, body⟩ := a.getterBody_eq
    rw [show a.getter.body = _ from body] at getter
    rw [show a.setter.body = _ from a.setterBody_eq] at setter
    refine ⟨d, quotedToken a.key, a.key, getterHead, setterHead, a.store, rest, site, ?_,
      quotedToken_readsAs.mpr rfl, ?_, ?_⟩
    · rw [Reply.just, getter, setter]
    · intro e he
      rw [keyOf, he] at hkey
      exact static?_of_staticText hkey
    · intro none
      rw [keyOf, none] at hkey
      injection hkey with hkey
      exact hkey.symm

/-! ## 5. Pairs -/

/-- The second half of a pair is the text of the first half, which is the argument. -/
def PairTold (r : Request) (reply : Reply) : Prop :=
  ∃ e half text, r.arguments.single? = some e ∧ half = e.tokens ∧
    reply.addition = .expression [parens (half ++ operator "," ++ [text])] ∧
    text.ReadsAs (Token.render half)

theorem Transform.pairTold {r : Request} {reply : Reply}
    (h : Transform.stringify.run r = .ok reply) : PairTold r reply := by
  cases Transform.run_replies h with
  | @pair e arg => exact ⟨e, e.tokens, _, arg, rfl, rfl, quotedToken_readsAs.mpr rfl⟩

/-! ## 6. All emitted texts -/

/-- **Emitted literals carry exactly the text that was checked.** The literal of any text, printed
and read again, is this text and no other; and for every request that is answered, the literals in
the reply read as the texts they stand for. -/
theorem emitted_literals_carry_text :
    (∀ s v : String, (quotedToken s).ReadsAs v ↔ v = s) ∧
    ∀ r reply,
      (Transform.validatedUrl.run r = .ok reply → UrlTold r reply) ∧
      (Transform.warning.run r = .ok reply → WarningTold r reply) ∧
      (Transform.storedAccess.run r = .ok reply → KeyTold r reply) ∧
      (Transform.stringify.run r = .ok reply → PairTold r reply) :=
  ⟨fun _ _ => quotedToken_readsAs, fun _ _ =>
    ⟨Transform.urlTold, Transform.warningTold, Transform.keyTold, Transform.pairTold⟩⟩

/-- A text of every kind of character that is not written as itself. -/
def awkwardText : String := "\x007\"\\\n\r\t\u200b"

/-- A request whose only argument is this text. -/
def textRequest (text : String) : Request where
  site := .invocation
  arguments := [⟨none, .lit [] (quotedToken text) (.str text)⟩]
  std := true

/-- A request for the accessors of a property that is kept under this key. -/
def keyRequest (text : String) : Request where
  site := .property
    { attrs := [], vis := .inherited, body := none
      sig := { (default : Signature) with
        ident := .new "dark", generics := .empty, inputs := [], output := none } }
  arguments :=
    [⟨some (.new "default_value"), .lit [] (word "true") (.bool true)⟩,
      ⟨some (.new "key"), .lit [] (quotedToken text) (.str text)⟩]
  std := true

/-- Each of the transforms answers some request, and its literals carry the text. -/
theorem awkwardText_carried :
    (∃ reply, Transform.validatedUrl.run (textRequest "a:b") = .ok reply ∧
      UrlTold (textRequest "a:b") reply) ∧
    (∃ reply, Transform.warning.run (textRequest awkwardText) = .ok reply ∧
      WarningTold (textRequest awkwardText) reply) ∧
    (∃ reply, Transform.storedAccess.run (keyRequest awkwardText) = .ok reply ∧
      KeyTold (keyRequest awkwardText) reply) ∧
    (∃ reply, Transform.stringify.run (textRequest awkwardText) = .ok reply ∧
      PairTold (textRequest awkwardText) reply) := by
  have carried := emitted_literals_carry_text.2
  have url : ∃ reply, Transform.validatedUrl.run (textRequest "a:b") = .ok reply := ⟨_, rfl⟩
  have warning : ∃ reply, Transform.warning.run (textRequest awkwardText) = .ok reply := ⟨_, rfl⟩
  have key : ∃ reply, Transform.storedAccess.run (keyRequest awkwardText) = .ok reply := ⟨_, rfl⟩
  have pair : ∃ reply, Transform.stringify.run (textRequest awkwardText) = .ok reply := ⟨_, rfl⟩
  obtain ⟨url, hurl⟩ := url
  obtain ⟨warning, hwarning⟩ := warning
  obtain ⟨key, hkey⟩ := key
  obtain ⟨pair, hpair⟩ := pair
  exact ⟨⟨url, hurl, (carried _ _).1 hurl⟩, ⟨warning, hwarning, (carried _ _).2.1 hwarning⟩,
    ⟨key, hkey, (carried _ _).2.2.1 hkey⟩, ⟨pair, hpair, (carried _ _).2.2.2 hpair⟩⟩

end Graft
