import Graft.Proofs.Callback.WrappedTypes
import Graft.Proofs.Expansion.Placement
import Graft.Proofs.Store.KeptProperty
import Graft.Proofs.Transform.AccessRequests
import Graft.Transform.Copy
import Mathlib

/-!
# Types in parentheses

Whether a type is in parentheses or an invisible group makes no difference to what it is. Callbacks
are looked for through such wrappers; the type of a field, the type of a stored property and the
result of a callback are not.

* `CopyField.inner?`: the type that a field's `Option` holds, as far as a copy is concerned.
* `calledMethod?`: the method of the store that a getter calls, from its tokens.
* **`wrapped_types_classified`**: what each wrapper changes, and that nothing else is changed.
  `wrappers_not_transparent` has a declaration for each place where one is not seen through.
-/

namespace Graft

/-! ## 1. Fields -/

/-- A wrapped type is applied to nothing. -/
theorem Ty.Wraps.unwrap?_eq_none {t t' : Ty} (h : t.Wraps t') (wrapped : t' ≠ t)
    (wrapper : String) : Ty.unwrap? wrapper t' = none := by
  cases h with
  | bare => exact absurd rfl wrapped
  | paren => rfl
  | group => rfl

/-- The type that the `Option` of a field holds, if the field can be set to nothing. -/
def CopyField.inner? (f : CopyField) : Option Ty :=
  match f.override with
  | .nullable inner => some inner
  | .optional _ => none

theorem CopyField.inner?_ofField (i : Nat) (f : Field) :
    (CopyField.ofProperty (.ofField i f)).inner? = Ty.unwrap? "Option" f.ty := by
  unfold inner? ofProperty
  rw [Property.ty_ofField]
  dsimp only [Option.bind_some]
  cases Ty.unwrap? "Option" f.ty <;> rfl

/-- A field that is an `Option` for a copy is one as a property. -/
theorem Property.isOptional_ofField (i : Nat) (f : Field) :
    (Property.ofField i f).isOptional =
      (CopyField.ofProperty (.ofField i f)).inner?.isSome := by
  rw [CopyField.inner?_ofField, isOptional, ty_ofField]
  rfl

/-- **A field is taken for an `Option` only if no wrapper is around it.** -/
theorem CopyField.inner?_wrapped (i : Nat) (f : Field) {t t' : Ty} (h : t.Wraps t') :
    (CopyField.ofProperty (.ofField i { f with ty := t' })).inner? =
        (CopyField.ofProperty (.ofField i { f with ty := t })).inner? ↔
      t' = t ∨ ∀ inner, ¬ Ty.Applies "Option" inner t := by
  rw [inner?_ofField, inner?_ofField]
  dsimp only
  by_cases same : t' = t
  · rw [same]
    exact ⟨fun _ => .inl rfl, fun _ => rfl⟩
  · rw [h.unwrap?_eq_none same "Option"]
    constructor
    · intro none
      refine .inr fun inner applies => ?_
      rw [Ty.unwrap?_eq_some.mpr applies] at none
      nomatch none
    · intro unapplied
      refine (Option.eq_none_iff_forall_ne_some.mpr fun inner found => ?_).symm
      exact unapplied.elim same fun other => other inner (Ty.unwrap?_eq_some.mp found)

/-! ## 2. Stored properties -/

/-- The method that is called on the store, from the tokens of the call. -/
def calledMethod? : List Token → Option String
  | .ident _ :: .punct '.' _ _ :: .ident method :: _ => some method.text
  | _ => none

/-- The method of the store that a reader is. -/
def Reader.method : Reader → String
  | .bool => "bool"
  | .integer => "integer"
  | .float => "float"
  | .string => "string"
  | .typed _ => "get"

theorem Access.calledMethod?_readTokens (a : Access) :
    calledMethod? a.readTokens = some a.reader.method := by
  obtain ⟨ty, default, reader⟩ := a
  cases reader <;> rfl

/-- A type that is written as the store's own one for the class of a default. -/
def Ty.StoresOwn (t : Ty) (default : Expr) : Prop :=
  ∃ own, default.literalClass.storeType? = some own ∧ t.isBare own = true

theorem Ty.Wraps.isBare_eq_false {t t' : Ty} (h : t.Wraps t') (wrapped : t' ≠ t) (name : String) :
    t'.isBare name = false := by
  cases h with
  | bare => exact absurd rfl wrapped
  | paren => rfl
  | group => rfl

namespace Access

variable {default : Expr} {t t' : Ty} {access access' : Access}

theorem reader_of_some {ty : List Token} {reader : Reader}
    (h : some ⟨ty, default, reader⟩ = some access) : access.reader = reader := by
  injection h with h
  rw [← h]

/-- A number of the store's own type is not read through a conversion. -/
theorem method_of_storesOwn (own : t.StoresOwn default)
    (chosen : of? default (some t) = some access) : access.reader.method ≠ "get" := by
  obtain ⟨name, number, bare⟩ := own
  have declared : ∀ own, default.literalClass.storeType? = some own →
      ∀ ty, some t = some ty → ty.isBare own = true := by
    intro own stored ty same
    rw [number] at stored
    injection stored with stored
    injection same with same
    rw [← same, ← stored]
    exact bare
  rw [of?_class rfl declared] at chosen
  cases literal : default.literalClass with
  | int | float =>
    rw [literal] at chosen
    rw [reader_of_some chosen]
    decide
  | bool | string | named | unrecognized =>
    rw [literal] at number
    nomatch number

/-- A number of any other type is. -/
theorem method_of_foreign {own : String} (number : default.literalClass.storeType? = some own)
    (other : t.isBare own = false) (chosen : of? default (some t) = some access) :
    access.reader.method = "get" := by
  rw [of?_foreign number other] at chosen
  rw [reader_of_some chosen]
  rfl

/-- **A number is read with the store's own method only if no wrapper is around its type.** -/
theorem method_wrapped (h : t.Wraps t') (chosen : of? default (some t) = some access)
    (chosen' : of? default (some t') = some access') :
    access'.reader.method = access.reader.method ↔ t' = t ∨ ¬ t.StoresOwn default := by
  by_cases same : t' = t
  · rw [same, chosen] at chosen'
    injection chosen' with chosen'
    rw [chosen']
    exact ⟨fun _ => .inl same, fun _ => rfl⟩
  · cases number : default.literalClass.storeType? with
    | none =>
      have plain : ∀ u, of? default (some u) = ofClass? default default.literalClass := by
        refine fun u => of?_class rfl fun _ stored => ?_
        rw [number] at stored
        nomatch stored
      rw [plain] at chosen chosen'
      rw [chosen] at chosen'
      injection chosen' with chosen'
      rw [chosen']
      refine ⟨fun _ => .inr fun own => ?_, fun _ => rfl⟩
      obtain ⟨name, number', -⟩ := own
      rw [number] at number'
      nomatch number'
    | some name =>
      rw [method_of_foreign number (h.isBare_eq_false same name) chosen']
      constructor
      · intro read
        exact .inr fun own => method_of_storesOwn own chosen read.symm
      · intro foreign
        have other : t.isBare name = false := by
          refine Bool.eq_false_iff.mpr fun bare => ?_
          exact foreign.elim same fun notOwn => notOwn ⟨name, number, bare⟩
        exact (method_of_foreign number other chosen).symm

end Access

/-- The declaration of a property with this type. -/
def PropertyDecl.returning (d : PropertyDecl) (t : Ty) : PropertyDecl :=
  { d with sig := { d.sig with output := some t } }

/-- The type of a property decides nothing but how the property is read. -/
theorem Transform.accessorsOf_returning (args : Arguments) (d : PropertyDecl) (t t' : Ty) :
    (∀ e, accessorsOf args (d.returning t) = .error e →
      accessorsOf args (d.returning t') = .error e) ∧
    ∀ a, accessorsOf args (d.returning t) = .ok a →
      Access.of? a.access.default (some t) = some a.access ∧
      ∃ access', Access.of? a.access.default (some t') = some access' ∧
        accessorsOf args (d.returning t') =
          .ok { a with decl := d.returning t', ty := t'.tokens, access := access' } := by
  cases unknown : args.find? (!isKnown ·) with
  | some wrong =>
    rw [accessorsOf_of_wrong _ unknown, accessorsOf_of_wrong _ unknown]
    exact ⟨fun e failed => failed, fun a made => by cases made⟩
  | none =>
    cases given : args.labeled "default_value" with
    | none =>
      simp only [accessorsOf, unknown, given]
      exact ⟨fun e failed => failed, fun a made => by cases made⟩
    | some default =>
      have key : keyOf args (d.returning t') = keyOf args (d.returning t) := rfl
      cases keyed : keyOf args (d.returning t) with
      | error e =>
        simp only [accessorsOf, unknown, given, key, keyed]
        exact ⟨fun e failed => failed, fun a made => by cases made⟩
      | ok text =>
        rw [accessorsOf_of_keyed unknown given keyed,
          accessorsOf_of_keyed unknown given (key.trans keyed)]
        have plain : ((Property.ofDecl (d.returning t')).isComputed ||
            !(d.returning t').isPlainGetter) = ((Property.ofDecl (d.returning t)).isComputed ||
            !(d.returning t).isPlainGetter) := rfl
        have output : ∀ u, (d.returning u).sig.output = some u := fun u => rfl
        rw [plain, output t, output t']
        split
        · exact ⟨fun e failed => failed, fun a made => by cases made⟩
        · cases chosen : Access.of? default (some t) with
          | none =>
            have unread : Access.of? default (some t') = none :=
              Access.of?_eq_none.mpr (Access.of?_eq_none.mp chosen)
            rw [unread]
            exact ⟨fun e failed => failed, fun a made => by cases made⟩
          | some access =>
            have known : Access.of? default (some t') ≠ none := by
              intro none
              rw [Access.of?_eq_none.mpr (Access.of?_eq_none.mp none)] at chosen
              cases chosen
            obtain ⟨access', chosen'⟩ := Option.ne_none_iff_exists'.mp known
            rw [chosen']
            refine ⟨fun e failed => (by cases failed), fun a made => ?_⟩
            injection made with made
            subst made
            dsimp only
            rw [Access.of?_default chosen]
            exact ⟨chosen, access', chosen', rfl⟩

/-! ## 3. All types -/

/-- **What parentheses and invisible groups around a type change.** A field is an `Option` or not,
and holds the same type, as without them, unless its type is an `Option`, which is then not seen. A
stored property has the same key, store and default as without them, and is read with the same
method unless its type is the store's own one for such a default, which is then not seen. A callback
is the same as without them, up to those around its value, unless the result of its function trait
is a `()` in some; then there is none. -/
theorem wrapped_types_classified (t t' : Ty) (wrapped : t.Wraps t') :
    (∀ (i : Nat) (f : Field),
      (Property.ofField i f).isOptional =
        (CopyField.ofProperty (.ofField i f)).inner?.isSome ∧
      ((CopyField.ofProperty (.ofField i { f with ty := t' })).inner? =
          (CopyField.ofProperty (.ofField i { f with ty := t })).inner? ↔
        t' = t ∨ ∀ inner, ¬ Ty.Applies "Option" inner t)) ∧
    (∀ (args : Arguments) (d : PropertyDecl),
      (∀ e, Transform.accessorsOf args (d.returning t) = .error e →
        Transform.accessorsOf args (d.returning t') = .error e) ∧
      ∀ a, Transform.accessorsOf args (d.returning t) = .ok a →
        ∃ a', Transform.accessorsOf args (d.returning t') = .ok a' ∧ a'.key = a.key ∧
          a'.store = a.store ∧ a'.access.default = a.access.default ∧
          (calledMethod? a'.access.readTokens = calledMethod? a.access.readTokens ↔
            t' = t ∨ ¬ t.StoresOwn a.access.default)) ∧
    ∀ s s' : Signature, s.Rewraps s' →
      (s.callback? = none → s'.callback? = none) ∧
      ∀ c, s.callback? = some c →
        (s'.callback? = none ↔ ∃ outer b, s'.BoundsCallback c.generic outer b ∧ b.HidesUnit) ∧
        ∀ c', s'.callback? = some c' →
          c.value.Wraps c'.value ∧ c'.passing = c.passing ∧ c'.generic = c.generic := by
  refine ⟨fun i f => ⟨Property.isOptional_ofField i f, CopyField.inner?_wrapped i f wrapped⟩,
    fun args d => ?_, fun s s' h => h.callback?_told⟩
  obtain ⟨failed, made⟩ := Transform.accessorsOf_returning args d t t'
  refine ⟨failed, fun a accessors => ?_⟩
  obtain ⟨chosen, access', chosen', accessors'⟩ := made a accessors
  refine ⟨_, accessors', rfl, rfl, Access.of?_default chosen', ?_⟩
  rw [Access.calledMethod?_readTokens, Access.calledMethod?_readTokens, Option.some_inj]
  exact Access.method_wrapped wrapped chosen chosen'

/-- A type in parentheses. -/
def parenthesized (t : Ty) : Ty := .paren .callSite t

/-- The field `text: t`. -/
def textField (t : Ty) : Field := ⟨[], .inherited, some (.new "text"), t⟩

/-- `struct Label { text: t }`. -/
def labelStruct (t : Ty) : Item :=
  .struct ⟨[], .inherited, .callSite, .new "Label", .empty⟩
    (.named .callSite [textField t] false)

/-- `fn count(&self) -> t;`. -/
def countDecl (t : Ty) : PropertyDecl :=
  PropertyDecl.returning { flagDecl with sig := { flagDecl.sig with ident := .new "count" } } t

/-- The arguments `default_value = 3`. -/
def threeByDefault : Arguments :=
  [⟨some (.new "default_value"), .lit [] (.literal "3" .callSite) (.int "3" "")⟩]

/-- The type `impl Fn(value) -> output`. -/
def implReturning (value output : Ty) : Ty :=
  .implTrait .callSite [.trait none none none (.mk none
    [.mk (.new "Fn") (.paren .callSite [value] false (some output))])] false

/-- The type `()`. -/
def unitTy : Ty := .tuple .callSite [] false

theorem implReturning_rewraps {value value' : Ty} (h : value.Wraps value') (output : Ty) :
    (implReturning value output).Rewraps (parenthesized (implReturning value' output)) := by
  have path := @Path.Rewraps.call none [] (.new "Fn") .callSite _ _ false (some output) _
    (.cons h .nil) (.some .bare)
  exact .impl .bare (.paren _ .bare) (.cons (.trait path) .nil)

theorem eachWith_rewraps {t t' : Ty} (h : t.Rewraps t') :
    (eachWith .empty t).sig.Rewraps (eachWith .empty t').sig :=
  ⟨@Signature.RewrapsLast.last _ _ [] _ _ _ _ _ rfl rfl h, rfl, .nil, .nil⟩

/-- The field `text: (u8)`, the property `fn count(&self) -> (u8);` and the callback of
`fn each(done: (impl Fn((u8)) -> ())) {}` are seen through their parentheses. -/
theorem wrappers_seen_through :
    (CopyField.ofProperty (.ofField 0 (textField (parenthesized (nameTy "u8"))))).inner? =
      (CopyField.ofProperty (.ofField 0 (textField (nameTy "u8")))).inner? ∧
    (∃ a a', Transform.accessorsOf threeByDefault (countDecl (nameTy "u8")) = .ok a ∧
      Transform.accessorsOf threeByDefault (countDecl (parenthesized (nameTy "u8"))) = .ok a' ∧
      calledMethod? a'.access.readTokens = calledMethod? a.access.readTokens) ∧
    ∃ c', (eachWith .empty (parenthesized
        (implReturning (parenthesized (nameTy "u8")) unitTy))).sig.callback? = some c' ∧
      (nameTy "u8").Wraps c'.value ∧ c'.passing = .direct := by
  have wrapped : (nameTy "u8").Wraps (parenthesized (nameTy "u8")) := .paren _ .bare
  obtain ⟨fields, properties, callbacks⟩ := wrapped_types_classified _ _ wrapped
  refine ⟨?_, ?_, ?_⟩
  · refine (fields 0 (textField (nameTy "u8"))).2.mpr (.inr fun inner applies => ?_)
    have found := Ty.unwrap?_eq_some.mpr applies
    nomatch found
  · obtain ⟨-, made⟩ := properties threeByDefault (countDecl (nameTy "u8"))
    have accessors : ∃ a, Transform.accessorsOf threeByDefault (countDecl (nameTy "u8")) = .ok a ∧
        a.access.default.literalClass = .int := ⟨_, rfl, rfl⟩
    obtain ⟨a, accessors, literal⟩ := accessors
    obtain ⟨a', accessors', -, -, -, called⟩ := made a accessors
    refine ⟨a, a', accessors, accessors', called.mpr (.inr fun own => ?_)⟩
    obtain ⟨name, number, bare⟩ := own
    rw [literal] at number
    injection number with number
    subst number
    exact absurd bare (by decide)
  · obtain ⟨-, told⟩ := callbacks _ _ (eachWith_rewraps (implReturning_rewraps wrapped unitTy))
    obtain ⟨-, same⟩ := told ⟨nameTy "u8", .direct, none⟩ rfl
    obtain ⟨wraps, passing, -⟩ := same ⟨parenthesized (nameTy "u8"), .direct, none⟩ rfl
    exact ⟨_, rfl, wraps, passing⟩

set_option maxRecDepth 4000 in
theorem labelStruct_parse : Item.parse (code "struct Label" ++
    [braces (code "text :" ++ [parens (code "Option < u8 >")])]) =
    .ok (labelStruct (parenthesized (appliedTy "Option" [.ty (nameTy "u8")]))) := by
  cbv

theorem countDecl_parse : PropertyDecl.parse (code "fn count" ++ [parens (code "& self")] ++
    operator "->" ++ [parens (code "i64")] ++ operator ";") =
    .ok (countDecl (parenthesized (nameTy "i64"))) := by
  cbv

theorem threeByDefault_parse :
    Arguments.parse (code "default_value =" ++ [.literal "3" .callSite]) = .ok threeByDefault := by
  cbv

set_option maxRecDepth 4000 in
theorem eachReturning_parse : Item.parse (code "fn each" ++ [parens (code "done : impl Fn" ++
    [parens (code "u8")] ++ operator "->" ++ [parens [parens []]]), braces []]) =
    .ok (.function (eachWith .empty (implReturning (nameTy "u8") (parenthesized unitTy)))) := by
  cbv

/-- **Not all wrappers are seen through**: `struct Label { text: (Option<u8>) }` has a field that is
not taken for an `Option`, `fn count(&self) -> (i64);` is not read with the store's own method, and
`fn each(done: impl Fn(u8) -> (())) {}` has no callback. Without the parentheses they are, it is and
it has. -/
theorem wrappers_not_transparent :
    (∃ ts t', (appliedTy "Option" [.ty (nameTy "u8")]).Wraps t' ∧
      Item.parse ts = .ok (labelStruct t') ∧
      (CopyField.ofProperty (.ofField 0
        (textField (appliedTy "Option" [.ty (nameTy "u8")])))).inner? = some (nameTy "u8") ∧
      (CopyField.ofProperty (.ofField 0 (textField t'))).inner? = none) ∧
    (∃ ts t' arguments args a a', (nameTy "i64").Wraps t' ∧
      PropertyDecl.parse ts = .ok (countDecl t') ∧ Arguments.parse arguments = .ok args ∧
      Transform.accessorsOf args (countDecl (nameTy "i64")) = .ok a ∧
      Transform.accessorsOf args (countDecl t') = .ok a' ∧
      calledMethod? a.access.readTokens = some "integer" ∧
      calledMethod? a'.access.readTokens = some "get") ∧
    ∃ ts t' c, unitTy.Wraps t' ∧
      Item.parse ts = .ok (.function (eachWith .empty (implReturning (nameTy "u8") t'))) ∧
      (eachWith .empty (implReturning (nameTy "u8") unitTy)).sig.callback? = some c ∧
      (eachWith .empty (implReturning (nameTy "u8") t')).sig.callback? = none := by
  refine ⟨⟨_, _, .paren _ .bare, labelStruct_parse, rfl, rfl⟩, ?_, ?_⟩
  · exact ⟨_, _, _, _, _, _, .paren _ .bare, countDecl_parse, threeByDefault_parse, rfl, rfl, rfl,
      rfl⟩
  · exact ⟨_, _, _, .paren _ .bare, eachReturning_parse, rfl, rfl⟩

end Graft
