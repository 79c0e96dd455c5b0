import Graft.Proofs.Grammar.Parameters
import Graft.Proofs.Transform.AccessRequests
import Graft.Proofs.Tree.TypeShapes

/-!
# The signature of a getter

A getter is not the declaration with a body behind it: it is written anew, from some parts of the
declaration. Here it is compared with the declaration as it would be written itself.

* `PropertyDecl.completed`: a declaration with its type filled in and a body; `KeepsSignature`: a
  getter that is written like that, up to positions.
* `completed_atoms`, `getter_atoms`: both begin with the same attributes and the same visibility,
  and end alike; only the declaration has qualifiers in between.
* **`Accessors.keepsSignature_iff`**: so the signature is kept iff there are no qualifiers.
* **`getter_signature`**: what that comes to for the requests that are granted. `const`, `unsafe`
  and `extern` are not refused and get lost; `unsafeFlagDecl_signature_lost` is a declaration that
  loses one.
-/

namespace Graft

/-! ## 1. Tokens without their positions -/

theorem Token.atomsOf_append (ts us : List Token) :
    atomsOf (ts ++ us) = atomsOf ts ++ atomsOf us := by
  induction ts with
  | nil => rfl
  | cons t ts ih => simp only [List.cons_append, atomsOf, ih, List.append_assoc]

/-! ## 2. Signatures -/

/-- The qualifiers of a signature: what stands in front of `fn`. -/
def Signature.qualifiers (s : Signature) : List Part :=
  Part.wordAt "const" s.constant ++ Part.wordAt "async" s.async ++
    Part.wordAt "unsafe" s.unsafety ++
    match s.abi with
    | some a => a.parts
    | none => []

theorem Signature.parts_eq (s : Signature) : s.parts = s.qualifiers ++
    ([Part.word "fn" s.word, .token (.ident s.ident)] ++ s.generics.paramParts ++
      [.group .paren s.paren s.inputParts] ++ s.outputParts ++ s.generics.clauseParts) := by
  unfold parts qualifiers
  cases s.abi <;> simp only [List.append_assoc]

namespace PropertyDecl

/-- A declaration with its type filled in and a body added. A comma behind the receiver is not
written again. -/
def completed (d : PropertyDecl) (t : Ty) (body : List Token) : PropertyDecl :=
  { d with
    sig := { d.sig with output := some t, trailing := false }
    body := some ⟨.callSite, Part.ofTokens body⟩ }

/-- A declaration without the qualifiers that a getter is given without. -/
def unqualified (d : PropertyDecl) : PropertyDecl :=
  { d with sig := { d.sig with constant := none, unsafety := none, abi := none } }

/-- What a method with this name, receiver, type and body is written as behind its qualifiers. -/
def bareTokens (d : PropertyDecl) (ty body : List Token) : List Token :=
  [word "fn", .ident d.sig.ident, parens (commaSeparated d.sig.receiver?.toList)] ++
    operator "->" ++ ty ++ [braces body]

end PropertyDecl

/-- A getter has the signature of a declaration, with the type filled in where it was omitted and a
body added. Positions do not count. -/
def KeepsSignature (d : PropertyDecl) (getter : List Token) : Prop :=
  ∃ (t : Ty) (body : List Token), (∀ declared, d.sig.output = some declared → t = declared) ∧
    Token.atomsOf getter = Token.atomsOf (d.completed t body).tokens

/-! ## 3. The declaration -/

/-- Shared references to `self`, of which only the first parameter may be one: there is at most
one. -/
theorem ReceiverFirst.inputs_eq {args : List FnArg} (first : ReceiverFirst args)
    (onlySelf : ∀ arg ∈ args, ∃ r : Receiver, arg = .receiver r ∧ r.reference ≠ none ∧
      r.mutable = none) : args = [] ∨ ∃ r, args = [.receiver r] := by
  match args with
  | [] => exact .inl rfl
  | [arg] =>
    obtain ⟨r, rfl, -⟩ := onlySelf arg List.mem_cons_self
    exact .inr ⟨r, rfl⟩
  | arg :: second :: more =>
    obtain ⟨r, found, -⟩ := onlySelf second (List.mem_cons_of_mem _ List.mem_cons_self)
    exact absurd found (first second List.mem_cons_self r)

section Declaration

variable {d : PropertyDecl} (plain : d.Plain) (first : ReceiverFirst d.sig.inputs)

include plain first

/-- The parameters of a declaration are written as the receiver of its getter is. -/
theorem PropertyDecl.inputParts_tokens (t : Ty) (body : List Token) :
    Part.tokensOf (d.completed t body).sig.inputParts =
      commaSeparated d.sig.receiver?.toList := by
  rcases first.inputs_eq plain.onlySelf with none | ⟨r, one⟩
  · simp [completed, Signature.inputParts, Signature.receiver?, none, plain.notVariadic,
      Part.punctuated, withCommas, Part.tokensOf, commaSeparated]
  · simp [completed, Signature.inputParts, Signature.receiver?, one, plain.notVariadic,
      Part.punctuated, withCommas, commaSeparated, FnArg.parts]

/-- **A declaration has its qualifiers between its visibility and `fn`.** -/
theorem PropertyDecl.completed_atoms (t : Ty) (body : List Token) :
    Token.atomsOf (d.completed t body).tokens =
      Token.atomsOf (attributeTokens d.attrs ++ Part.tokensOf d.vis.parts) ++
        (Token.atomsOf (Part.tokensOf d.sig.qualifiers) ++
          Token.atomsOf (d.bareTokens t.tokens body)) := by
  have inputs := inputParts_tokens plain first t body
  have noParams : d.sig.generics.paramParts = [] := by
    simp [Generics.paramParts, Generics.bracketed, plain.noParams]
  have noClause : d.sig.generics.clauseParts = [] := by
    simp [Generics.clauseParts, plain.noClause]
  have whole : (d.completed t body).tokens =
      attributeTokens d.attrs ++
        Part.tokensOf (d.vis.parts ++ (d.completed t body).sig.parts) ++
        Part.tokensOf [.group .brace .callSite (Part.ofTokens body)] := rfl
  have parts : (d.completed t body).sig.parts = d.sig.qualifiers ++
      ([Part.word "fn" d.sig.word, .token (.ident d.sig.ident)] ++ d.sig.generics.paramParts ++
        [.group .paren d.sig.paren (d.completed t body).sig.inputParts] ++
        (Part.operator "->" ++ [.ty t]) ++ d.sig.generics.clauseParts) :=
    Signature.parts_eq _
  rw [whole, parts, noParams, noClause]
  simp [bareTokens, Part.tokensOf_append, Part.tokensOf_ofTokens, Token.atomsOf_append, inputs,
    Part.operator, Part.word, word, parens, braces, Part.tokensOf, Part.tokens, Token.atomsOf,
    Token.atoms, Ident.new]

end Declaration

/-! ## 4. The getter -/

/-- Qualifiers begin with a word other than `fn`. -/
theorem Signature.qualifiers_cases (s : Signature) (async : s.async = none) :
    (s.constant = none ∧ s.unsafety = none ∧ s.abi = none) ∨
      ∃ w span rest, w ≠ "fn" ∧ s.qualifiers = Part.word w span :: rest := by
  unfold qualifiers
  rw [async]
  cases s.constant with
  | some span => exact .inr ⟨"const", span, _, by decide, rfl⟩
  | none =>
    cases s.unsafety with
    | some span => exact .inr ⟨"unsafe", span, _, by decide, rfl⟩
    | none =>
      cases s.abi with
      | some a => exact .inr ⟨"extern", a.word, _, by decide, rfl⟩
      | none => exact .inl ⟨rfl, rfl, rfl⟩

namespace Accessors

/-- **A getter has nothing between its visibility and `fn`.** -/
theorem getter_atoms (a : Accessors) : Token.atomsOf a.getter.tokens =
    Token.atomsOf (attributeTokens a.decl.attrs ++ Part.tokensOf a.decl.vis.parts) ++
      Token.atomsOf (a.decl.bareTokens a.ty a.getterBody) := by
  rw [getter_tokens, ← Token.atomsOf_append]
  simp [writtenGetter, PropertyDecl.bareTokens, getterBody, letStore]

/-- **A getter keeps the signature iff there are no qualifiers to lose.** -/
theorem keepsSignature_iff (a : Accessors) (plain : a.decl.Plain)
    (first : ReceiverFirst a.decl.sig.inputs)
    (typed : ∀ declared, a.decl.sig.output = some declared → a.ty = declared.tokens) :
    KeepsSignature a.decl a.getter.tokens ↔
      a.decl.sig.constant = none ∧ a.decl.sig.unsafety = none ∧ a.decl.sig.abi = none := by
  constructor
  · rintro ⟨t, body, -, same⟩
    rw [getter_atoms, PropertyDecl.completed_atoms plain first, List.append_cancel_left_eq] at same
    rcases a.decl.sig.qualifiers_cases plain.notAsync with none | ⟨w, span, rest, other, found⟩
    · exact none
    · -- Behind the visibility, `fn` comes first in one and a qualifier in the other.
      rw [found] at same
      injection same with head _
      injection head with head
      exact absurd head.symm other
  · rintro ⟨constant, unsafety, abi⟩
    have none : a.decl.sig.qualifiers = [] := by
      simp [Signature.qualifiers, constant, plain.notAsync, unsafety, abi, Part.wordAt, wordAt,
        Part.ofTokens]
    obtain ⟨t, declared, written⟩ : ∃ t : Ty,
        (∀ declared, a.decl.sig.output = some declared → t = declared) ∧ t.tokens = a.ty := by
      cases output : a.decl.sig.output with
      | some t =>
        refine ⟨t, ?_, (typed t output).symm⟩
        intro declared h
        injection h
      | none =>
        refine ⟨.other .verbatim (Part.ofTokens a.ty), fun _ h => (by cases h), ?_⟩
        rw [Ty.tokens, Part.tokensOf_ofTokens]
    refine ⟨t, a.getterBody, declared, ?_⟩
    rw [getter_atoms, PropertyDecl.completed_atoms plain first, none, written]
    rfl

end Accessors

/-! ## 5. Requests -/

theorem PropertyDecl.Plain.unqualified {d : PropertyDecl} (plain : d.Plain) :
    d.unqualified.Plain where
  noBody := plain.noBody
  onlySelf := plain.onlySelf
  noParams := plain.noParams
  noClause := plain.noClause
  notAsync := plain.notAsync
  notVariadic := plain.notVariadic

/-- Accessors are those of a plain declaration, with the type that it declares. -/
theorem Transform.accessorsOf_plain {args : Arguments} {d : PropertyDecl} {a : Accessors}
    (made : accessorsOf args d = .ok a) :
    a.decl = d ∧ d.Plain ∧ ∀ declared, d.sig.output = some declared → a.ty = declared.tokens := by
  obtain ⟨-, check, default, access, key, -, -, -, rfl⟩ := accessorsOf_made made
  refine ⟨rfl, PropertyDecl.plain_iff.mp check, ?_⟩
  intro declared output
  simp only [output]

/-- **What is kept of a signature.** For every declaration that was parsed and every request that
is granted, the getter has the signature of the declaration but for `const`, `unsafe` and `extern`,
with the type filled in where it was omitted and a body added. It has the signature itself exactly
if none of the three is there. -/
theorem getter_signature {ts : List Token} {d : PropertyDecl}
    (parsed : PropertyDecl.parse ts = .ok d) {args : Arguments} {std : Bool} {reply : Reply}
    (granted : Transform.storedAccess.run ⟨.property d, args, std⟩ = .ok reply) :
    ∃ getter setter, reply = .just (.accessors getter setter) ∧
      KeepsSignature d.unqualified getter ∧
      (KeepsSignature d getter ↔
        d.sig.constant = none ∧ d.sig.unsafety = none ∧ d.sig.abi = none) := by
  have first := PropertyDecl.parse_receiverFirst parsed
  cases Transform.run_replies granted with
  | @accessors d' a site made =>
    injection site with site
    subst site
    obtain ⟨rfl, plain, typed⟩ := Transform.accessorsOf_plain made
    refine ⟨_, _, rfl, ?_, a.keepsSignature_iff plain first typed⟩
    -- The getter of the declaration without qualifiers is the same one.
    let bare : Accessors := { a with decl := a.decl.unqualified }
    have kept : KeepsSignature bare.decl bare.getter.tokens :=
      (bare.keepsSignature_iff plain.unqualified first typed).mpr ⟨rfl, rfl, rfl⟩
    exact kept

/-! ## 6. A flag and an unsafe flag -/

/-- The tokens of `fn flag(&self) -> bool;`, with a qualifier or without. -/
def flagTokens (qualifier : List Token) : List Token :=
  qualifier ++ code "fn flag" ++ [parens (code "& self")] ++ code "-> bool ;"

/-- The declaration `unsafe fn flag(&self) -> bool;`. -/
def unsafeFlagDecl : PropertyDecl :=
  { flagDecl with sig := { flagDecl.sig with unsafety := some .callSite } }

theorem flagDecl_parse : PropertyDecl.parse (flagTokens []) = .ok flagDecl := by
  cbv

theorem unsafeFlagDecl_parse :
    PropertyDecl.parse (flagTokens [word "unsafe"]) = .ok unsafeFlagDecl := by
  cbv

/-- A flag without qualifiers keeps its signature. -/
theorem flagDecl_signature_kept :
    PropertyDecl.parse (flagTokens []) = .ok flagDecl ∧
    ∃ getter setter,
      Transform.storedAccess.run ⟨.property flagDecl, keyedArguments textKey, true⟩ =
        .ok (.just (.accessors getter setter)) ∧ KeepsSignature flagDecl getter := by
  have granted : ∃ reply,
      Transform.storedAccess.run ⟨.property flagDecl, keyedArguments textKey, true⟩ =
        .ok reply := ⟨_, rfl⟩
  obtain ⟨reply, granted⟩ := granted
  obtain ⟨getter, setter, rfl, -, kept⟩ := getter_signature flagDecl_parse granted
  exact ⟨flagDecl_parse, getter, setter, granted, kept.mpr ⟨rfl, rfl, rfl⟩⟩

/-- **Not every signature is kept**: an unsafe flag is granted a getter that is not unsafe. -/
theorem unsafeFlagDecl_signature_lost :
    PropertyDecl.parse (flagTokens [word "unsafe"]) = .ok unsafeFlagDecl ∧
    ∃ getter setter,
      Transform.storedAccess.run ⟨.property unsafeFlagDecl, keyedArguments textKey, true⟩ =
        .ok (.just (.accessors getter setter)) ∧ ¬ KeepsSignature unsafeFlagDecl getter := by
  have made : ∃ a, Transform.accessorsOf (keyedArguments textKey) unsafeFlagDecl = .ok a :=
    ⟨_, rfl⟩
  obtain ⟨a, made⟩ := made
  obtain ⟨decl, plain, typed⟩ := Transform.accessorsOf_plain made
  have first := PropertyDecl.parse_receiverFirst unsafeFlagDecl_parse
  refine ⟨unsafeFlagDecl_parse, _, _, Transform.storedAccess_eq_ok.mpr ⟨a, made, rfl⟩, ?_⟩
  intro kept
  rw [← decl] at kept plain first typed
  have lost := ((a.keepsSignature_iff plain first typed).mp kept).2.1
  rw [decl] at lost
  nomatch lost

end Graft
