import Graft.Transform.Catalog

/-!
# What the transforms answer

One inversion for each transform: every reply it can give, with the form of the site it gives it
at. What an expansion comes to is read off these, so no later proof opens a transform again.

* `OnlyErrors`: a computation whose diagnostics are errors. Every transform is one
  (`Transform.run_onlyErrors`), since the only warning there is belongs to a reply.
* `Transform.Replies`: every reply there is. `Transform.run_replies` says that a transform gives no
  other, from one lemma for each transform.
* `Replies.notes`: no transform but `warning` reports anything besides its addition, and `warning`
  reports exactly one warning.
-/

namespace Graft

/-! ## 1. Failures are errors -/

/-- What fails only with errors, never with a warning. -/
def OnlyErrors {α : Type} (x : Except Diagnostic α) : Prop := ∀ d, x = .error d → d.isError = true

namespace OnlyErrors

variable {α β : Type}

theorem ok (a : α) : OnlyErrors (.ok a) := by
  intro d h
  cases h

theorem error {d : Diagnostic} (hd : d.isError = true) : OnlyErrors (.error d : Except _ α) := by
  intro d' h
  injection h with h
  rw [← h]
  exact hd

theorem bind {x : Except Diagnostic α} {f : α → Except Diagnostic β} (hx : OnlyErrors x)
    (hf : ∀ a, OnlyErrors (f a)) : OnlyErrors (x >>= f) := by
  intro d h
  cases x with
  | error e =>
    have he : e = d := by injection h
    exact hx d (he ▸ rfl)
  | ok a => exact hf a d h

end OnlyErrors

theorem Except.bind_eq_ok {ε α β : Type} {x : Except ε α} {f : α → Except ε β} {b : β}
    (h : x >>= f = .ok b) : ∃ a, x = .ok a ∧ f a = .ok b := by
  cases x with
  | error e => cases h
  | ok a => exact ⟨a, rfl, h⟩

theorem Diagnostic.problem_on (ts : List Token) (p : Problem) :
    (Diagnostic.on ts p).problem = p := by
  cases ts <;> rfl

theorem Diagnostic.isError_on (ts : List Token) {p : Problem} (hp : p.severity = .error) :
    (Diagnostic.on ts p).isError = true := by
  cases ts with
  | nil => simp [Diagnostic.on, Diagnostic.overall, Diagnostic.at_, Diagnostic.isError, hp]
  | cons t rest => simp [Diagnostic.on, Diagnostic.isError, hp]

theorem Diagnostic.severity_warning (ts : List Token) (text : String) :
    (Diagnostic.on ts (.warning text)).problem.severity = .warning := by
  cases ts <;> rfl

theorem Diagnostic.isError_warning (ts : List Token) (text : String) :
    (Diagnostic.on ts (.warning text)).isError = false := by
  unfold Diagnostic.isError
  rw [Diagnostic.severity_warning]
  rfl

namespace Request

theorem needStd_onlyErrors (r : Request) : OnlyErrors r.needStd := by
  unfold needStd
  split
  · exact .ok _
  · exact .error rfl

theorem single_onlyErrors (r : Request) {p : Problem} (hp : p.severity = .error) :
    OnlyErrors (r.single p) := by
  unfold single
  split
  · exact .ok _
  · exact .error (by simp [Diagnostic.overall, Diagnostic.at_, Diagnostic.isError, hp])

end Request

theorem staticText_onlyErrors (e : Expr) {p : Problem} (hp : p.severity = .error) :
    OnlyErrors (staticText e p) := by
  unfold staticText
  split
  · exact .error rfl
  · split
    · exact .ok _
    · exact .error (Diagnostic.isError_on _ hp)

namespace Transform

theorem pairWithText_onlyErrors (r : Request) : OnlyErrors (pairWithText r) :=
  (r.single_onlyErrors rfl).bind fun _ => .ok _

theorem validateUrl_onlyErrors (r : Request) : OnlyErrors (validateUrl r) := by
  refine r.needStd_onlyErrors.bind fun _ => (r.single_onlyErrors rfl).bind fun e =>
    (staticText_onlyErrors e rfl).bind fun text => ?_
  split
  · exact .error (Diagnostic.isError_on _ rfl)
  · exact .ok _

theorem emitWarning_onlyErrors (r : Request) : OnlyErrors (emitWarning r) :=
  (r.single_onlyErrors rfl).bind fun e => (staticText_onlyErrors e rfl).bind fun _ => .ok _

theorem addSibling_onlyErrors (r : Request) : OnlyErrors (addSibling r) := by
  refine r.needStd_onlyErrors.bind fun _ => ?_
  split
  · split <;> exact .ok _
  · exact .ok _

theorem addCopy_onlyErrors (r : Request) : OnlyErrors (addCopy r) := by
  unfold addCopy
  split
  · exact .error rfl
  · split
    · dsimp only
      split <;> exact .ok _
    · exact .error rfl

theorem Detector.all_onlyErrors (cases : List EnumCase) : OnlyErrors (Detector.all cases) := by
  unfold Detector.all
  split
  · exact .error (Diagnostic.isError_on _ rfl)
  · exact .ok _

theorem addDetectors_onlyErrors (r : Request) : OnlyErrors (addDetectors r) := by
  unfold addDetectors
  split
  · exact .ok _
  · rename_i i _
    split
    · split
      · rename_i d hd
        exact .error (Detector.all_onlyErrors _ d hd)
      · exact .ok _
      · exact .ok _
    · exact .ok _

theorem addEquality_onlyErrors (r : Request) : OnlyErrors (addEquality r) := by
  unfold addEquality
  split
  · exact .error rfl
  · split
    · split <;> exact .ok _
    · split <;> exact .ok _
    · exact .error rfl
    · exact .error rfl

theorem addFieldAttributes_onlyErrors (r : Request) : OnlyErrors (addFieldAttributes r) := by
  refine (r.single_onlyErrors rfl).bind fun e => (staticText_onlyErrors e rfl).bind fun text => ?_
  split
  · exact .error (Diagnostic.isError_on _ rfl)
  · split
    · exact .ok _
    · dsimp only
      split
      · split <;> exact .ok _
      · exact .ok _

theorem keyOf_onlyErrors (args : Arguments) (d : PropertyDecl) : OnlyErrors (keyOf args d) := by
  unfold keyOf
  split
  · exact staticText_onlyErrors _ rfl
  · exact .ok _

theorem accessorsOf_onlyErrors (args : Arguments) (d : PropertyDecl) :
    OnlyErrors (accessorsOf args d) := by
  unfold accessorsOf
  cases args.find? (!isKnown ·) with
  | some wrong => exact .error (Diagnostic.isError_on wrong.tokens rfl)
  | none =>
    cases args.labeled "default_value" with
    | none => exact .error rfl
    | some default =>
      refine (keyOf_onlyErrors args d).bind fun key => ?_
      cases (Property.ofDecl d).isComputed || !d.isPlainGetter with
      | true => exact .error rfl
      | false =>
        cases Access.of? default d.sig.output with
        | none => exact .error (Diagnostic.isError_on default.tokens rfl)
        | some access => exact .ok _

theorem addAccessors_onlyErrors (r : Request) : OnlyErrors (addAccessors r) := by
  refine r.needStd_onlyErrors.bind fun _ => ?_
  split
  · exact (accessorsOf_onlyErrors _ _).bind fun _ => .ok _
  · exact .error rfl

/-- **A transform fails with an error**, never with a warning. -/
theorem run_onlyErrors (t : Transform) (r : Request) : OnlyErrors (t.run r) := by
  cases t with
  | stringify => exact pairWithText_onlyErrors r
  | validatedUrl => exact validateUrl_onlyErrors r
  | warning => exact emitWarning_onlyErrors r
  | asyncBridge => exact addSibling_onlyErrors r
  | copyable => exact addCopy_onlyErrors r
  | caseDetection => exact addDetectors_onlyErrors r
  | wrapStoredProperties => exact addFieldAttributes_onlyErrors r
  | storedAccess => exact addAccessors_onlyErrors r
  | equatable => exact addEquality_onlyErrors r

/-! ## 2. Replies -/

/-- What the transforms can answer, with the site they answer it at and what they have checked. -/
inductive Replies (r : Request) : Transform → Reply → Prop
  | pair {e : Expr} (arg : r.arguments.single? = some e) :
      Replies r .stringify (.just (.expression (pairTokens e)))
  | url {e : Expr} {text : String} (arg : r.arguments.single? = some e)
      (static : staticText e .urlNotLiteral = .ok text) (valid : Url.check text.toList = none) :
      Replies r .validatedUrl (.just (.expression (urlTokens text)))
  | warning {e : Expr} {text : String} (arg : r.arguments.single? = some e)
      (static : staticText e .warningNotLiteral = .ok text) :
      Replies r .warning ⟨.declarations [deprecatedUse text], [.on e.tokens (.warning text)]⟩
  | noSibling : Replies r .asyncBridge (.just .nothing)
  | sibling {f : FnItem} {s : Sibling} (site : r.site = .item (.function f))
      (found : Sibling.of? f = some s) :
      Replies r .asyncBridge (.just (.declarations [s.method.tokens]))
  | noCopy {head : TypeHead} {fields : Fields} (site : r.site = .item (.struct head fields)) :
      Replies r .copyable (.just .nothing)
  | copy {head : TypeHead} {fields : Fields} (site : r.site = .item (.struct head fields)) :
      Replies r .copyable (.just (.declarations
        [(CopyMethod.ofOutline (Item.struct head fields).outline).method.tokens]))
  | noDetectors : Replies r .caseDetection (.just .nothing)
  | detectors {head : TypeHead} {span : Span} {variants : List Variant} {trailing : Bool}
      {ds : List Detector} (site : r.site = .item (.enum head span variants trailing))
      (distinct : Detector.all (Item.enum head span variants trailing).outline.cases = .ok ds) :
      Replies r .caseDetection
        (.just (.declarations (ds.map fun d => (d.method head.vis).tokens)))
  | noFields : Replies r .wrapStoredProperties (.just .nothing)
  | fields {i : Item} {text : String} {inside : List Token} (site : r.site = .item i)
      (kind : i.outline.kind = .struct ∨ i.outline.kind = .union)
      (spelled : attributeOfText text = .ok inside) :
      Replies r .wrapStoredProperties (.just (.fieldAttribute inside (storedFields i.outline)))
  | accessors {d : PropertyDecl} {a : Accessors} (site : r.site = .property d)
      (made : accessorsOf r.arguments d = .ok a) :
      Replies r .storedAccess (.just (.accessors a.getter.tokens a.setter.tokens))
  | derived {i : Item} (site : r.site = .item i) : Replies r .equatable (.just .nothing)
  | equality {i : Item} (site : r.site = .item i)
      (kind : i.outline.kind = .struct ∨ i.outline.kind = .enum) :
      Replies r .equatable (.just (.conformance partialEqPath))

end Transform

theorem Site.item?_eq_some {s : Site} {i : Item} (h : s.item? = some i) : s = .item i := by
  cases s with
  | item j =>
    injection h with h
    rw [h]
  | property d => cases h
  | invocation => cases h

/-- An item whose outline is that of a struct is a struct. -/
theorem Item.eq_struct {i : Item} (h : i.outline.kind = .struct) :
    ∃ head fields, i = .struct head fields := by
  cases i with
  | struct head fields => exact ⟨head, fields, rfl⟩
  | enum => cases h
  | union => cases h
  | function => cases h
  | other => cases h
  | verbatim => cases h

/-- An item whose outline is that of an enum is an enum. -/
theorem Item.eq_enum {i : Item} (h : i.outline.kind = .enum) :
    ∃ head span variants trailing, i = .enum head span variants trailing := by
  cases i with
  | enum head span variants trailing => exact ⟨head, span, variants, trailing, rfl⟩
  | struct => cases h
  | union => cases h
  | function => cases h
  | other => cases h
  | verbatim => cases h

theorem Request.single_eq_ok {r : Request} {p : Problem} {e : Expr} (h : r.single p = .ok e) :
    r.arguments.single? = some e := by
  unfold Request.single at h
  split at h
  · rename_i e' he
    injection h with h
    rw [he, h]
  · cases h

namespace Transform

variable {r : Request} {reply : Reply}

/-- A computation that succeeded replies what it returned. -/
theorem Replies.of_ok {t : Transform} {given : Reply}
    (h : (.ok given : Except Diagnostic Reply) = .ok reply) (hgiven : Replies r t given) :
    Replies r t reply := by
  injection h with h
  rw [← h]
  exact hgiven

theorem pairWithText_replies (h : pairWithText r = .ok reply) : Replies r .stringify reply := by
  obtain ⟨e, he, h⟩ := Except.bind_eq_ok h
  exact .of_ok h (.pair (Request.single_eq_ok he))

theorem validateUrl_replies (h : validateUrl r = .ok reply) : Replies r .validatedUrl reply := by
  obtain ⟨_, _, h⟩ := Except.bind_eq_ok h
  obtain ⟨e, he, h⟩ := Except.bind_eq_ok h
  obtain ⟨text, htext, h⟩ := Except.bind_eq_ok h
  split at h
  · cases h
  · rename_i hvalid
    exact .of_ok h (.url (Request.single_eq_ok he) htext hvalid)

theorem emitWarning_replies (h : emitWarning r = .ok reply) : Replies r .warning reply := by
  obtain ⟨e, he, h⟩ := Except.bind_eq_ok h
  obtain ⟨text, htext, h⟩ := Except.bind_eq_ok h
  exact .of_ok h (.warning (Request.single_eq_ok he) htext)

theorem addSibling_replies (h : addSibling r = .ok reply) : Replies r .asyncBridge reply := by
  obtain ⟨_, _, h⟩ := Except.bind_eq_ok h
  split at h
  · rename_i f hsite
    split at h
    · rename_i s hs
      exact .of_ok h (.sibling hsite hs)
    · exact .of_ok h .noSibling
  · exact .of_ok h .noSibling

theorem addCopy_replies (h : addCopy r = .ok reply) : Replies r .copyable reply := by
  unfold addCopy at h
  split at h
  · cases h
  · rename_i i hi
    have hsite := Site.item?_eq_some hi
    split at h
    · rename_i hkind
      obtain ⟨head, fields, rfl⟩ := Item.eq_struct (beq_iff_eq.mp hkind)
      dsimp only at h
      split at h
      · exact .of_ok h (.noCopy hsite)
      · exact .of_ok h (.copy hsite)
    · cases h

theorem addDetectors_replies (h : addDetectors r = .ok reply) :
    Replies r .caseDetection reply := by
  unfold addDetectors at h
  split at h
  · exact .of_ok h .noDetectors
  · rename_i i hi
    have hsite := Site.item?_eq_some hi
    split at h
    · rename_i hkind
      obtain ⟨head, span, variants, trailing, rfl⟩ := Item.eq_enum (beq_iff_eq.mp hkind)
      split at h
      · cases h
      · exact .of_ok h .noDetectors
      · rename_i ds hds
        exact .of_ok h (.detectors hsite hds)
    · exact .of_ok h .noDetectors

theorem addEquality_replies (h : addEquality r = .ok reply) : Replies r .equatable reply := by
  unfold addEquality at h
  split at h
  · cases h
  · rename_i i hi
    have hsite := Site.item?_eq_some hi
    split at h
    · rename_i hkind
      split at h
      · exact .of_ok h (.derived hsite)
      · exact .of_ok h (.equality hsite (.inl hkind))
    · rename_i hkind
      split at h
      · exact .of_ok h (.derived hsite)
      · exact .of_ok h (.equality hsite (.inr hkind))
    · cases h
    · cases h

theorem addFieldAttributes_replies (h : addFieldAttributes r = .ok reply) :
    Replies r .wrapStoredProperties reply := by
  obtain ⟨e, he, h⟩ := Except.bind_eq_ok h
  obtain ⟨text, htext, h⟩ := Except.bind_eq_ok h
  split at h
  · cases h
  · rename_i inside hinside
    split at h
    · exact .of_ok h .noFields
    · rename_i i hi
      have hsite := Site.item?_eq_some hi
      dsimp only at h
      split at h
      · rename_i hkind
        split at h
        · exact .of_ok h .noFields
        · exact .of_ok h (.fields hsite (by simpa using hkind) hinside)
      · exact .of_ok h .noFields

/-- **Accessors are made once every check has passed**, and from nothing but the arguments and the
declaration. -/
theorem accessorsOf_made {args : Arguments} {d : PropertyDecl} {a : Accessors}
    (h : accessorsOf args d = .ok a) :
    args.find? (!isKnown ·) = none ∧ ((Property.ofDecl d).isComputed || !d.isPlainGetter) = false ∧
      ∃ default access key, args.labeled "default_value" = some default ∧
        keyOf args d = .ok key ∧ Access.of? default d.sig.output = some access ∧
        a = { decl := d
              ty := match d.sig.output with
                | some t => t.tokens
                | none => access.ty
              key := key
              store := storeOf args
              access := access } := by
  unfold accessorsOf at h
  cases hwrong : args.find? (!isKnown ·) with
  | some wrong =>
    rw [hwrong] at h
    cases h
  | none =>
    rw [hwrong] at h
    cases hdefault : args.labeled "default_value" with
    | none =>
      rw [hdefault] at h
      cases h
    | some default =>
      rw [hdefault] at h
      obtain ⟨default, hsame, h⟩ := Except.bind_eq_ok h
      injection hsame with hsame
      subst hsame
      obtain ⟨key, hkey, h⟩ := Except.bind_eq_ok h
      cases hplain : (Property.ofDecl d).isComputed || !d.isPlainGetter with
      | true =>
        simp only [hplain] at h
        cases h
      | false =>
        simp only [hplain] at h
        cases haccess : Access.of? default d.sig.output with
        | none =>
          simp only [haccess] at h
          cases h
        | some access =>
          simp only [haccess] at h
          injection h with h
          exact ⟨rfl, rfl, default, access, key, rfl, hkey, haccess, h.symm⟩

/-- What the accessors of a property are made from. -/
theorem accessorsOf_eq_ok {args : Arguments} {d : PropertyDecl} {a : Accessors}
    (h : accessorsOf args d = .ok a) :
    ∃ default, args.labeled "default_value" = some default ∧
      Access.of? default d.sig.output = some a.access ∧ keyOf args d = .ok a.key := by
  obtain ⟨-, -, default, access, key, given, keyed, chosen, rfl⟩ := accessorsOf_made h
  exact ⟨default, given, chosen, keyed⟩

theorem addAccessors_replies (h : addAccessors r = .ok reply) : Replies r .storedAccess reply := by
  obtain ⟨_, _, h⟩ := Except.bind_eq_ok h
  split at h
  · rename_i d hsite
    obtain ⟨a, ha, h⟩ := Except.bind_eq_ok h
    exact .of_ok h (.accessors hsite ha)
  · cases h

/-- **Every reply of a transform is one of those listed.** -/
theorem run_replies {t : Transform} (h : t.run r = .ok reply) : Replies r t reply := by
  cases t with
  | stringify => exact pairWithText_replies h
  | validatedUrl => exact validateUrl_replies h
  | warning => exact emitWarning_replies h
  | asyncBridge => exact addSibling_replies h
  | copyable => exact addCopy_replies h
  | caseDetection => exact addDetectors_replies h
  | wrapStoredProperties => exact addFieldAttributes_replies h
  | storedAccess => exact addAccessors_replies h
  | equatable => exact addEquality_replies h

/-! ## 3. Notes -/

/-- **Only `warning` reports anything besides its addition**, and that is one warning. -/
theorem Replies.notes {t : Transform} (h : Replies r t reply) :
    (t ≠ .warning ∧ reply.notes = []) ∨
      (t = .warning ∧ ∃ e text, reply.notes = [Diagnostic.on (Expr.tokens e) (.warning text)]) := by
  cases h with
  | warning arg static => exact .inr ⟨rfl, _, _, rfl⟩
  | pair | url | noSibling | sibling | noCopy | copy | noDetectors | detectors | noFields | fields
  | accessors | derived | equality => exact .inl ⟨Transform.noConfusion, rfl⟩

theorem Replies.notes_quiet {t : Transform} (h : Replies r t reply) :
    reply.notes.any Diagnostic.isError = false := by
  rcases h.notes with ⟨-, hnotes⟩ | ⟨-, e, text, hnotes⟩
  · rw [hnotes]
    rfl
  · rw [hnotes]
    simp only [List.any_cons, List.any_nil, Bool.or_false]
    exact Diagnostic.isError_warning _ _

end Transform

end Graft
