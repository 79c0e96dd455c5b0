import Graft.Proofs.Argument.Labels
import Graft.Proofs.Template.StaticText
import Graft.Proofs.Transform.Replies
import Mathlib

/-!
# Which properties are given accessors

A request for accessors is accepted if five conditions hold, and refused with the diagnostic of the
first that does not. The conditions are told here by what is among the arguments and in the
declaration, without the look-ups and tests that check them.

* `Acceptable`: the conditions; `Refused`: the first one that fails, with its diagnostic.
* `KeyStops`: the one request that is not answered: reading its key stops at a literal of unknown
  form.
* `AccessorsTold`: the getter and the setter that are written, from one key, one store, one
  receiver, one visibility and one type.
* `acceptable_or_refused`, `Acceptable.accessorsOf_eq`, `Refused.accessorsOf_eq`: every request is
  one or the other, and what comes of it.
* **`access_requests_exact`**: a request is answered as its conditions say iff its key does not stop
  the reading. `foreignKey_not_refused` is a key that does.
-/

namespace Graft

/-! ## 1. Conditions -/

/-- An argument with one of the labels that a property can have. -/
def Argument.Known (a : Argument) : Prop :=
  ∃ l : Ident, a.label = some l ∧
    (l.text = "default_value" ∨ l.text = "key" ∨ l.text = "store")

/-- A declaration of a stored property: a name, perhaps `&self`, and perhaps a type. -/
structure PropertyDecl.Plain (d : PropertyDecl) : Prop where
  noBody : d.body = none
  onlySelf : ∀ arg ∈ d.sig.inputs, ∃ r : Receiver,
    arg = .receiver r ∧ r.reference ≠ none ∧ r.mutable = none
  noParams : d.sig.generics.params = []
  noClause : d.sig.generics.clause = none
  notAsync : d.sig.async = none
  notVariadic : d.sig.variadic = none

/-- A key, if there is one, is a static text. -/
def Arguments.KeyStatic (args : Arguments) : Prop :=
  ∀ e, args.Gives "key" e → ∃ s, StaticForm e s

/-- The requests that are granted. -/
structure Acceptable (args : Arguments) (d : PropertyDecl) : Prop where
  known : ∀ a ∈ args, a.Known
  default : ∃ e, args.Gives "default_value" e
  key : args.KeyStatic
  plain : d.Plain
  literal : ∀ e, args.Gives "default_value" e → e.literalClass ≠ .unrecognized

/-- The requests that are refused, with the diagnostic of the first condition that fails. -/
inductive Refused (args : Arguments) (d : PropertyDecl) : Diagnostic → Prop
  | label {before after : Arguments} {a : Argument} (place : args = before ++ a :: after)
      (known : ∀ b ∈ before, b.Known) (wrong : ¬ a.Known) :
      Refused args d (.on a.tokens .wrongArgument)
  | default (known : ∀ a ∈ args, a.Known) (absent : ∀ e, ¬ args.Gives "default_value" e) :
      Refused args d (.overall .missingDefault)
  | key {default key : Expr} (known : ∀ a ∈ args, a.Known)
      (given : args.Gives "default_value" default) (keyed : args.Gives "key" key)
      (other : ∀ s, ¬ StaticForm key s) : Refused args d (.on key.tokens .keyNotLiteral)
  | declaration {default : Expr} (known : ∀ a ∈ args, a.Known)
      (given : args.Gives "default_value" default) (static : args.KeyStatic)
      (other : ¬ d.Plain) : Refused args d (.overall .notStoredProperty)
  | literal {default : Expr} (known : ∀ a ∈ args, a.Known)
      (given : args.Gives "default_value" default) (static : args.KeyStatic) (plain : d.Plain)
      (other : default.literalClass = .unrecognized) :
      Refused args d (.on default.tokens .unsupportedDefault)

/-- Reading the key stops at a literal of unknown form, once the conditions before it hold. -/
structure KeyStops (args : Arguments) (text : String) : Prop where
  known : ∀ a ∈ args, a.Known
  default : ∃ e, args.Gives "default_value" e
  stops : ∃ e, args.Gives "key" e ∧ StopsAt e text

/-! ## 2. What is written -/

/-- The text of the key: the one given, or the name of the property. -/
inductive KeyText (args : Arguments) (d : PropertyDecl) : String → Prop
  | given {e : Expr} {s : String} (h : args.Gives "key" e) (static : StaticForm e s) :
      KeyText args d s
  | name (absent : ∀ e, ¬ args.Gives "key" e) : KeyText args d d.sig.ident.unraw

/-- The expression of the store: the one given, or the shared store. -/
inductive StoreTokens (args : Arguments) : List Token → Prop
  | given {e : Expr} (h : args.Gives "store" e) : StoreTokens args e.tokens
  | shared (absent : ∀ e, ¬ args.Gives "store" e) :
      StoreTokens args (code ":: playtomic :: UserDefaults :: standard" ++ [parens []])

/-- The type of a property: the declared one, or the one that its default is of. -/
inductive PropertyType (default : Expr) : Option Ty → List Token → Prop
  | declared (t : Ty) : PropertyType default (some t) t.tokens
  | bool (literal : default.literalClass = .bool) : PropertyType default none [word "bool"]
  | int (literal : default.literalClass = .int) : PropertyType default none [word "i64"]
  | float (literal : default.literalClass = .float) : PropertyType default none [word "f64"]
  | string (literal : default.literalClass = .string) :
      PropertyType default none (code ":: std :: string :: String")
  | named {p : Path} (literal : default.literalClass = .named p) :
      PropertyType default none p.tokens

/-- The getter of a property of type `ty` that is kept in `store` under `key`. `answer` is what it
answers when nothing is kept, and `read` reads what is kept. -/
def writtenGetter (d : PropertyDecl) (ty store : List Token) (key : String)
    (answer read : List Token) : List Token :=
  attributeTokens d.attrs ++ Part.tokensOf d.vis.parts ++
    [word "fn", .ident d.sig.ident, parens (commaSeparated d.sig.receiver?.toList)] ++
    operator "->" ++ ty ++
    [braces (Accessors.useStore ++ code "let store = &" ++ store ++ operator ";" ++
      code "let key =" ++ [quotedToken key] ++ operator ";" ++
      code "if store . value" ++ [parens [word "key"]] ++ code ". is_none" ++
      [parens [], braces ([word "return"] ++ answer ++ operator ";")] ++ read)]

/-- The setter of a property of type `ty` that is kept in `store` under `key`. -/
def writtenSetter (d : PropertyDecl) (ty store : List Token) (key : String) : List Token :=
  attributeTokens (copiedAttrs d.attrs) ++ Part.tokensOf d.vis.parts ++
    [word "fn", .ident (.new ("set_" ++ d.sig.ident.unraw)),
      parens (commaSeparated
        (d.sig.receiver?.toList ++ [[word "new_value"] ++ operator ":" ++ ty])),
      braces (Accessors.useStore ++ code "let store = &" ++ store ++ operator ";" ++
        code "store . set" ++ [parens (code "new_value ," ++ [quotedToken key])] ++
        operator ";")]

/-- The reply to a request that is granted. -/
def AccessorsTold (args : Arguments) (d : PropertyDecl) (reply : Reply) : Prop :=
  ∃ default access ty store key, args.Gives "default_value" default ∧
    Access.of? default d.sig.output = some access ∧ PropertyType default d.sig.output ty ∧
    StoreTokens args store ∧ KeyText args d key ∧
    reply = .just (.accessors
      (writtenGetter d ty store key access.defaultTokens access.readTokens)
      (writtenSetter d ty store key))

/-! ## 3. Each condition and its check -/

theorem Transform.isKnown_iff {a : Argument} : isKnown a = true ↔ a.Known := by
  unfold isKnown Argument.Known
  cases a.label with
  | none =>
    constructor
    · intro h
      nomatch h
    · rintro ⟨l, hl, -⟩
      nomatch hl
  | some l =>
    simp only [accessLabels, List.contains_iff_mem, List.mem_cons, List.not_mem_nil, or_false]
    constructor
    · intro h
      exact ⟨l, rfl, h⟩
    · rintro ⟨m, hm, h⟩
      injection hm with hm
      rw [hm]
      exact h

theorem Transform.find?_unknown_eq_none {args : Arguments} :
    args.find? (!isKnown ·) = none ↔ ∀ a ∈ args, a.Known := by
  rw [List.find?_eq_none]
  refine forall₂_congr fun a _ => ?_
  rw [← isKnown_iff, Bool.not_eq_true, Bool.not_eq_false']

theorem PropertyDecl.isSharedSelf_iff {arg : FnArg} : isSharedSelf arg = true ↔
    ∃ r : Receiver, arg = .receiver r ∧ r.reference ≠ none ∧ r.mutable = none := by
  cases arg with
  | receiver r =>
    simp only [isSharedSelf, Bool.and_eq_true, Option.isSome_iff_ne_none, Option.isNone_iff_eq_none,
      FnArg.receiver.injEq, exists_eq_left']
  | typed attrs pat colon ty => simp [isSharedSelf]
  | dots attrs span => simp [isSharedSelf]

/-- **A declaration passes the check iff it is plain.** -/
theorem PropertyDecl.plain_iff {d : PropertyDecl} :
    ((Property.ofDecl d).isComputed || !d.isPlainGetter) = false ↔ d.Plain := by
  have noBody : (Property.ofDecl d).isComputed = false ↔ d.body = none := by
    simp [Property.isComputed, Property.ofDecl]
  simp only [Bool.or_eq_false_iff, Bool.not_eq_false', noBody, isPlainGetter, Bool.and_eq_true,
    List.all_eq_true, isSharedSelf_iff, List.isEmpty_iff, Option.isNone_iff_eq_none]
  constructor
  · rintro ⟨body, ⟨⟨⟨inputs, params⟩, clause⟩, async⟩, variadic⟩
    exact ⟨body, inputs, params, clause, async, variadic⟩
  · rintro ⟨body, inputs, params, clause, async, variadic⟩
    exact ⟨body, ⟨⟨⟨inputs, params⟩, clause⟩, async⟩, variadic⟩

/-- Without an own way to be read, a default is of no known class. -/
theorem Access.of?_eq_none {default : Expr} {declared : Option Ty} :
    of? default declared = none ↔ default.literalClass = .unrecognized := by
  unfold of?
  cases literal : default.literalClass with
  | unrecognized => simp [foreignNumber?, LiteralClass.storeType?, ofClass?]
  | bool | string | named => simp [foreignNumber?, LiteralClass.storeType?, ofClass?]
  | int | float =>
    -- A number has a way to be read whether or not it is of the store's own type.
    simp only [reduceCtorEq, iff_false]
    split <;> simp [ofClass?]

section Lookup

variable {args : Arguments} {d : PropertyDecl} (distinct : args.Distinct)

include distinct

theorem Transform.keyOf_eq_ok {key : String} : keyOf args d = .ok key ↔ KeyText args d key := by
  unfold keyOf
  cases found : args.labeled "key" with
  | some e =>
    have given := distinct.labeled_eq_some.mp found
    refine Iff.trans staticText_eq_ok ⟨.given given, ?_⟩
    rintro (⟨h, static⟩ | absent)
    · rw [distinct.gives_unique given h]
      exact static
    · exact absurd given (absent e)
  | none =>
    have absent := distinct.labeled_eq_none.mp found
    constructor
    · intro h
      injection h with h
      rw [← h]
      exact .name absent
    · rintro (⟨h, -⟩ | -)
      · exact absurd h (absent _)
      · rfl

theorem Transform.storeOf_told : StoreTokens args (storeOf args) := by
  unfold storeOf
  cases found : args.labeled "store" with
  | some e => exact .given (distinct.labeled_eq_some.mp found)
  | none => exact .shared (distinct.labeled_eq_none.mp found)

/-- A key that is static, or none, is found. -/
theorem Arguments.KeyStatic.keyOf_eq (static : args.KeyStatic) (d : PropertyDecl) :
    ∃ key, Transform.keyOf args d = .ok key := by
  by_cases keyed : ∃ e, args.Gives "key" e
  · obtain ⟨e, he⟩ := keyed
    obtain ⟨s, hs⟩ := static e he
    exact ⟨s, (Transform.keyOf_eq_ok distinct).mpr (.given he hs)⟩
  · exact ⟨_, (Transform.keyOf_eq_ok distinct).mpr (.name (not_exists.mp keyed))⟩

end Lookup

/-- The type that is written is the type of the property. -/
theorem Access.of?_type {default : Expr} {declared : Option Ty} {access : Access} :
    of? default declared = some access →
      PropertyType default declared (match declared with
        | some t => t.tokens
        | none => access.ty) := by
  intro chosen
  cases declared with
  | some t => exact .declared t
  | none =>
    unfold of? at chosen
    cases literal : default.literalClass <;> rw [literal] at chosen <;> cases chosen
    · exact .bool literal
    · exact .int literal
    · exact .string literal
    · exact .float literal
    · exact .named literal

/-! ## 4. What comes of a request -/

section Outcome

variable {args : Arguments} {d : PropertyDecl}

/-- **Every request is granted or refused.** -/
theorem acceptable_or_refused (args : Arguments) (d : PropertyDecl) :
    Acceptable args d ∨ ∃ diagnostic, Refused args d diagnostic := by
  -- The conditions are gone through in their order, each with those before it at hand.
  by_cases known : ∀ a ∈ args, a.Known
  · by_cases default : ∃ e, args.Gives "default_value" e
    · obtain ⟨e, given⟩ := default
      by_cases static : args.KeyStatic
      · by_cases plain : d.Plain
        · by_cases literal : ∀ e, args.Gives "default_value" e → e.literalClass ≠ .unrecognized
          · exact .inl ⟨known, ⟨e, given⟩, static, plain, literal⟩
          · obtain ⟨e, found⟩ := Classical.not_forall.mp literal
            obtain ⟨given, other⟩ := Classical.not_imp.mp found
            exact .inr ⟨_, .literal known given static plain (Classical.not_not.mp other)⟩
        · exact .inr ⟨_, .declaration known given static plain⟩
      · obtain ⟨key, found⟩ := Classical.not_forall.mp static
        obtain ⟨keyed, other⟩ := Classical.not_imp.mp found
        exact .inr ⟨_, .key known given keyed (not_exists.mp other)⟩
    · exact .inr ⟨_, .default known (not_exists.mp default)⟩
  · have wrong : args.find? (!Transform.isKnown ·) ≠ none :=
      fun h => known (Transform.find?_unknown_eq_none.mp h)
    obtain ⟨a, found⟩ := Option.ne_none_iff_exists'.mp wrong
    obtain ⟨ha, before, after, place, hbefore⟩ := List.find?_eq_some_iff_append.mp found
    refine .inr ⟨_, .label place ?_ ?_⟩
    · intro b mem
      have := hbefore b mem
      exact Transform.isKnown_iff.mp (by simpa using this)
    · intro h
      rw [Transform.isKnown_iff.mpr h] at ha
      nomatch ha

/-- An argument with another label is reported before everything else. -/
theorem Transform.accessorsOf_of_wrong {a : Argument} (d : PropertyDecl)
    (found : args.find? (!isKnown ·) = some a) :
    accessorsOf args d = .error (.on a.tokens .wrongArgument) := by
  simp only [accessorsOf, found]
  rfl

/-- What is left to do once there are a default and a key. -/
theorem Transform.accessorsOf_of_keyed {default : Expr} {key : String}
    (known : args.find? (!isKnown ·) = none) (given : args.labeled "default_value" = some default)
    (keyed : keyOf args d = .ok key) :
    accessorsOf args d =
      if (Property.ofDecl d).isComputed || !d.isPlainGetter then
        .error (.overall .notStoredProperty)
      else
        match Access.of? default d.sig.output with
        | none => .error (.on default.tokens .unsupportedDefault)
        | some access =>
          .ok { decl := d
                ty := match d.sig.output with
                  | some t => t.tokens
                  | none => access.ty
                key := key
                store := storeOf args
                access := access } := by
  simp only [accessorsOf, known, given, keyed]
  rfl

variable (distinct : args.Distinct)

include distinct

/-- A request that is granted is answered with accessors. -/
theorem Acceptable.accessorsOf_eq (h : Acceptable args d) :
    ∃ a, Transform.accessorsOf args d = .ok a := by
  obtain ⟨known, ⟨default, given⟩, static, plain, literal⟩ := h
  obtain ⟨key, keyed⟩ := static.keyOf_eq distinct d
  have supported : Access.of? default d.sig.output ≠ none :=
    fun h => literal default given (Access.of?_eq_none.mp h)
  obtain ⟨access, chosen⟩ := Option.ne_none_iff_exists'.mp supported
  rw [Transform.accessorsOf_of_keyed (Transform.find?_unknown_eq_none.mpr known)
    (distinct.labeled_eq_some.mpr given) keyed, PropertyDecl.plain_iff.mpr plain, chosen]
  exact ⟨_, rfl⟩

/-- A key that stops the reading is reported by what it stopped at. -/
theorem KeyStops.accessorsOf_eq {text : String} (h : KeyStops args text) :
    Transform.accessorsOf args d = .error (.ofSyntax (.unknownLiteral text)) := by
  obtain ⟨known, ⟨default, given⟩, key, keyed, stops⟩ := h
  simp only [Transform.accessorsOf, Transform.find?_unknown_eq_none.mpr known,
    distinct.labeled_eq_some.mpr given, Transform.keyOf, distinct.labeled_eq_some.mpr keyed,
    stops.staticText_eq]
  rfl

/-- **A request that is refused is answered with the diagnostic of the first condition that
fails**, unless its key stops the reading. -/
theorem Refused.accessorsOf_eq {diagnostic : Diagnostic} (goes : ∀ text, ¬ KeyStops args text)
    (h : Refused args d diagnostic) : Transform.accessorsOf args d = .error diagnostic := by
  cases h with
  | @label before after a place known wrong =>
    have found : args.find? (!Transform.isKnown ·) = some a := by
      refine List.find?_eq_some_iff_append.mpr ⟨?_, before, after, place, ?_⟩
      · rw [Bool.not_eq_true', ← Bool.not_eq_true, Transform.isKnown_iff]
        exact wrong
      · intro b mem
        rw [Transform.isKnown_iff.mpr (known b mem)]
        rfl
    exact Transform.accessorsOf_of_wrong d found
  | default known absent =>
    simp only [Transform.accessorsOf, Transform.find?_unknown_eq_none.mpr known,
      distinct.labeled_eq_none.mpr absent]
    rfl
  | @key default key known given keyed other =>
    have goesOn : ∀ text, ¬ StopsAt key text :=
      fun text stops => goes text ⟨known, ⟨default, given⟩, key, keyed, stops⟩
    simp only [Transform.accessorsOf, Transform.find?_unknown_eq_none.mpr known,
      distinct.labeled_eq_some.mpr given, Transform.keyOf, distinct.labeled_eq_some.mpr keyed,
      staticText_eq_error goesOn other]
    rfl
  | @declaration default known given static other =>
    obtain ⟨key, keyed⟩ := static.keyOf_eq distinct d
    have check : ((Property.ofDecl d).isComputed || !d.isPlainGetter) = true := by
      rw [← Bool.not_eq_false, PropertyDecl.plain_iff]
      exact other
    rw [Transform.accessorsOf_of_keyed (Transform.find?_unknown_eq_none.mpr known)
      (distinct.labeled_eq_some.mpr given) keyed, check]
    rfl
  | @literal default known given static plain other =>
    obtain ⟨key, keyed⟩ := static.keyOf_eq distinct d
    rw [Transform.accessorsOf_of_keyed (Transform.find?_unknown_eq_none.mpr known)
      (distinct.labeled_eq_some.mpr given) keyed, PropertyDecl.plain_iff.mpr plain,
      Access.of?_eq_none.mpr other]
    rfl

/-- A request that is answered with accessors is granted. -/
theorem acceptable_of_accessorsOf {a : Accessors} (h : Transform.accessorsOf args d = .ok a) :
    Acceptable args d := by
  rcases acceptable_or_refused args d with granted | ⟨diagnostic, refused⟩
  · exact granted
  · by_cases stops : ∃ text, KeyStops args text
    · obtain ⟨text, stops⟩ := stops
      rw [stops.accessorsOf_eq distinct] at h
      nomatch h
    · rw [refused.accessorsOf_eq distinct (not_exists.mp stops)] at h
      nomatch h

end Outcome

/-! ## 5. Replies -/

namespace Accessors

theorem getter_tokens (a : Accessors) : a.getter.tokens =
    writtenGetter a.decl a.ty a.store a.key a.access.defaultTokens a.access.readTokens := by
  simp [getter, Method.plain, Method.tokens, Method.inputs, writtenGetter, getterBody, letStore,
    Generics.paramParts, Generics.bracketed, Generics.clauseParts, Generics.empty, Part.tokensOf]

theorem setter_tokens (a : Accessors) :
    a.setter.tokens = writtenSetter a.decl a.ty a.store a.key := by
  simp [setter, Method.plain, Method.tokens, Method.inputs, writtenSetter, setterBody, letStore,
    Generics.paramParts, Generics.bracketed, Generics.clauseParts, Generics.empty, Part.tokensOf]

/-- The reply that accessors are given in. -/
theorem reply_eq (a : Accessors) : Reply.just (.accessors a.getter.tokens a.setter.tokens) =
    .just (.accessors
      (writtenGetter a.decl a.ty a.store a.key a.access.defaultTokens a.access.readTokens)
      (writtenSetter a.decl a.ty a.store a.key)) := by
  rw [getter_tokens, setter_tokens]

end Accessors

section Reply

variable {args : Arguments} {d : PropertyDecl}

/-- With the standard library, a request is answered by its accessors. -/
theorem Transform.storedAccess_run :
    storedAccess.run ⟨.property d, args, true⟩ =
      (accessorsOf args d).map fun a => .just (.accessors a.getter.tokens a.setter.tokens) := by
  show (accessorsOf args d >>= _) = _
  cases accessorsOf args d <;> rfl

theorem Transform.storedAccess_eq_error {diagnostic : Diagnostic} :
    storedAccess.run ⟨.property d, args, true⟩ = .error diagnostic ↔
      accessorsOf args d = .error diagnostic := by
  rw [storedAccess_run]
  cases accessorsOf args d <;> simp [Except.map]

theorem Transform.storedAccess_eq_ok {reply : Reply} :
    storedAccess.run ⟨.property d, args, true⟩ = .ok reply ↔
      ∃ a, accessorsOf args d = .ok a ∧
        reply = .just (.accessors a.getter.tokens a.setter.tokens) := by
  rw [storedAccess_run]
  cases accessorsOf args d <;> simp [Except.map, eq_comm]

/-- **The getter and the setter are written from the same key, store, receiver, visibility and
type.** -/
theorem accessors_told (distinct : args.Distinct) {a : Accessors}
    (h : Transform.accessorsOf args d = .ok a) :
    AccessorsTold args d (.just (.accessors a.getter.tokens a.setter.tokens)) := by
  obtain ⟨-, -, default, access, key, given, keyed, chosen, rfl⟩ := Transform.accessorsOf_made h
  refine ⟨default, access, _, _, key, distinct.labeled_eq_some.mp given, chosen,
    Access.of?_type chosen, Transform.storeOf_told distinct,
    (Transform.keyOf_eq_ok distinct).mp keyed, ?_⟩
  exact Accessors.reply_eq _

/-- The errors of a request are those that its conditions give iff its key does not stop the
reading. -/
theorem errors_refused_iff (distinct : args.Distinct) :
    (∀ diagnostic, Transform.accessorsOf args d = .error diagnostic ↔ Refused args d diagnostic) ↔
      ∀ text, ¬ KeyStops args text := by
  constructor
  · intro exactly text stops
    obtain ⟨known, ⟨default, given⟩, key, keyed, stopped⟩ := stops
    have refused : Refused args d (.on key.tokens .keyNotLiteral) :=
      .key known given keyed fun s => stopped.not_static
    have told := (exactly _).mpr refused
    rw [KeyStops.accessorsOf_eq distinct ⟨known, ⟨default, given⟩, key, keyed, stopped⟩,
      Except.error.injEq] at told
    -- What the reading stopped at is a fault of the grammar, not one of the key.
    have problem := congrArg Diagnostic.problem told
    rw [Diagnostic.problem_on] at problem
    nomatch problem
  · intro goes diagnostic
    refine ⟨fun failed => ?_, fun refused => refused.accessorsOf_eq distinct goes⟩
    rcases acceptable_or_refused args d with granted | ⟨other, refused⟩
    · obtain ⟨a, made⟩ := granted.accessorsOf_eq distinct
      rw [made] at failed
      nomatch failed
    · rw [refused.accessorsOf_eq distinct goes, Except.error.injEq] at failed
      rw [← failed]
      exact refused

/-- **Requests for accessors are answered by their conditions.** For every declaration and every
list of arguments that was parsed, accessors are the answer exactly where all conditions hold, and
both are then written from the same parts. Every other request is answered with the diagnostic of
the first condition that fails, and with no other, exactly if no key stops the reading; one that
does is reported by what it stopped at. -/
theorem access_requests_exact {ts : List Token} (parsed : Arguments.parse ts = .ok args)
    (d : PropertyDecl) :
    ((∃ getter setter, Transform.storedAccess.run ⟨.property d, args, true⟩ =
      .ok (.just (.accessors getter setter))) ↔ Acceptable args d) ∧
    (∀ reply, Transform.storedAccess.run ⟨.property d, args, true⟩ = .ok reply →
      AccessorsTold args d reply) ∧
    (∀ text, KeyStops args text → Transform.storedAccess.run ⟨.property d, args, true⟩ =
      .error (.ofSyntax (.unknownLiteral text))) ∧
    ((∀ diagnostic, Transform.storedAccess.run ⟨.property d, args, true⟩ = .error diagnostic ↔
      Refused args d diagnostic) ↔ ∀ text, ¬ KeyStops args text) := by
  have distinct := Arguments.parse_distinct parsed
  refine ⟨⟨?_, ?_⟩, ?_, ?_, ?_⟩
  · rintro ⟨getter, setter, answered⟩
    obtain ⟨a, made, -⟩ := Transform.storedAccess_eq_ok.mp answered
    exact acceptable_of_accessorsOf distinct made
  · intro granted
    obtain ⟨a, made⟩ := granted.accessorsOf_eq distinct
    exact ⟨_, _, Transform.storedAccess_eq_ok.mpr ⟨a, made, rfl⟩⟩
  · intro reply answered
    obtain ⟨a, made, rfl⟩ := Transform.storedAccess_eq_ok.mp answered
    exact accessors_told distinct made
  · intro text stops
    exact Transform.storedAccess_eq_error.mpr (stops.accessorsOf_eq distinct)
  · simp only [Transform.storedAccess_eq_error]
    exact errors_refused_iff distinct

end Reply

/-! ## 6. Two requests -/

/-- The declaration `fn flag(&self) -> bool;`. -/
def flagDecl : PropertyDecl where
  attrs := []
  vis := .inherited
  sig := { (default : Signature) with
    ident := .new "flag"
    generics := .empty
    inputs := [.receiver ⟨[], some (.callSite, none), none, .callSite⟩]
    output := some (.path (.mk none [.mk (.new "bool") .none])) }
  body := none

/-- The arguments `default_value = true, key = ..`. -/
def keyedTokens (key : List Token) : List Token := code "default_value = true , key =" ++ key

/-- The arguments that these tokens are. -/
def keyedArguments (key : Expr) : Arguments :=
  [⟨some (.new "default_value"), .lit [] (word "true") (.bool true)⟩, ⟨some (.new "key"), key⟩]

/-- The key `"k"`, read as an expression. -/
def textKey : Expr := .lit [] (.literal "\"k\"" .callSite) (.str "k")

/-- The key `format!(c"abc")`, read as an expression. -/
def foreignKey : Expr := .call [] (literalCall "format" "c\"abc\"")

theorem textKey_parse :
    Arguments.parse (keyedTokens [.literal "\"k\"" .callSite]) = .ok (keyedArguments textKey) := by
  cbv

theorem foreignKey_parse :
    Arguments.parse (keyedTokens (code "format !" ++ [parens [.literal "c\"abc\"" .callSite]])) =
      .ok (keyedArguments foreignKey) := by
  cbv

theorem keyedArguments_known (key : Expr) : ∀ a ∈ keyedArguments key, a.Known := by
  intro a mem
  rcases List.mem_cons.mp mem with rfl | mem
  · exact ⟨_, rfl, .inl rfl⟩
  · rw [List.mem_singleton.mp mem]
    exact ⟨_, rfl, .inr (.inl rfl)⟩

/-- A flag that is kept under a key of its own is given accessors. -/
theorem textKey_accepted :
    Arguments.parse (keyedTokens [.literal "\"k\"" .callSite]) = .ok (keyedArguments textKey) ∧
    Acceptable (keyedArguments textKey) flagDecl ∧
    ∃ getter setter,
      Transform.storedAccess.run ⟨.property flagDecl, keyedArguments textKey, true⟩ =
        .ok (.just (.accessors getter setter)) ∧
      AccessorsTold (keyedArguments textKey) flagDecl (.just (.accessors getter setter)) := by
  obtain ⟨accepted, told, -, -⟩ := access_requests_exact textKey_parse flagDecl
  have answered : ∃ getter setter,
      Transform.storedAccess.run ⟨.property flagDecl, keyedArguments textKey, true⟩ =
        .ok (.just (.accessors getter setter)) := ⟨_, _, rfl⟩
  refine ⟨textKey_parse, accepted.mp answered, ?_⟩
  obtain ⟨getter, setter, answered⟩ := answered
  exact ⟨getter, setter, answered, told _ answered⟩

/-- **Not every request is refused by its first failing condition**: the key `format!(c"abc")` is
no static text, but the reading stops at it. -/
theorem foreignKey_not_refused :
    Arguments.parse (keyedTokens (code "format !" ++ [parens [.literal "c\"abc\"" .callSite]])) =
      .ok (keyedArguments foreignKey) ∧
    ¬ ∀ diagnostic,
      Transform.storedAccess.run ⟨.property flagDecl, keyedArguments foreignKey, true⟩ =
        .error diagnostic ↔ Refused (keyedArguments foreignKey) flagDecl diagnostic := by
  refine ⟨foreignKey_parse, fun exactly => ?_⟩
  have stops : KeyStops (keyedArguments foreignKey) "c\"abc\"" :=
    ⟨keyedArguments_known _, ⟨_, _, rfl, List.mem_cons_self⟩, foreignKey,
      ⟨_, rfl, List.mem_cons_of_mem _ List.mem_cons_self⟩,
      .call rfl (Template.callArgs_unknown rfl rfl)⟩
  simp only [Transform.storedAccess_eq_error] at exactly
  exact (errors_refused_iff (Arguments.parse_distinct foreignKey_parse)).mp exactly _ stops

end Graft
