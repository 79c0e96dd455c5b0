import Graft.Proofs.Transform.DetectorNames
import Graft.Proofs.Transform.CopyOverrides
import Mathlib

/-!
# What detecting methods tell

A method is read from its tokens alone, and the pattern in it has the meaning that patterns have: it
names a variant, which has to be there and of a shape that the pattern may be written for, and then
the values of that variant match it.

* `EnumValue`: a value of an enum, whose fields have values of arbitrary types.
* `CasePattern.matches?`: whether a value matches a pattern, if the pattern is legal.
* `detector?`: the name and the pattern of a detecting method, from its tokens; `detector?_tokens`:
  they are those that were written.
* **`detectors_partition`**: on every value, the method of the value's own variant returns `true`
  and all others return `false`.
-/

namespace Graft

/-! ## 1. Values and patterns -/

/-- The types of the payloads of an enum: one for each field of each variant. -/
abbrev PayloadTypes (variants : List Variant) : Type 1 :=
  ∀ i : Fin variants.length, Fin variants[i].fields.toList.length → Type

/-- A value of an enum: one of its variants, with a value for each field of that. -/
structure EnumValue (variants : List Variant) (V : PayloadTypes variants) where
  variant : Fin variants.length
  payload : ∀ k, V variant k

/-- Whether a pattern of this form may be written for a variant of this shape. Braces around `..` go
with every shape. -/
def CaseShape.mayTest : (form shape : CaseShape) → Bool
  | .struct, _ => true
  | form, shape => form == shape

/-- The variant that a name behind `Self::` is the name of. -/
def variantNamed? (variants : List Variant) (name : Ident) : Option (Fin variants.length) :=
  (List.finRange variants.length).find? fun i => variants[i].ident.unraw == name.unraw

/-- **Whether a value matches a pattern.** A pattern that names no variant, or one of another shape,
is not legal. -/
def CasePattern.matches? {variants : List Variant} {V : PayloadTypes variants} (p : CasePattern)
    (v : EnumValue variants V) : Option Bool :=
  match variantNamed? variants p.variant with
  | some i => if p.shape.mayTest variants[i].fields.shape then some (i == v.variant) else none
  | none => none

/-! ## 2. Reading a detecting method -/

/-- The form of a pattern, from what follows the name in it. -/
def CaseShape.read? : List Token → Option CaseShape
  | [] => some .unit
  | [.group .paren [.punct '.' .joint _, .punct '.' .alone _] _] => some .tuple
  | [.group .brace [.punct '.' .joint _, .punct '.' .alone _] _] => some .struct
  | _ => none

/-- A pattern, from its tokens. -/
def CasePattern.read? : List Token → Option CasePattern
  | .ident self :: .punct ':' .joint _ :: .punct ':' .alone _ :: .ident name :: rest =>
    if self.text == "Self" then (CaseShape.read? rest).map fun shape => ⟨name, shape⟩ else none
  | _ => none

/-- The pattern that `*self` is matched with. -/
def matchedPattern? (body : List Token) : Option CasePattern :=
  match body.getLast? with
  | some (.group .paren (star :: self :: comma :: pattern) _) =>
    if Token.sameList body.dropLast (code ":: core :: matches !") &&
        Token.sameList [star, self, comma] (code "* self ,") then
      CasePattern.read? pattern
    else none
  | _ => none

/-- The name and the pattern of a method that takes `&self`, returns a `bool` and does nothing but
match. -/
def detector? (ts : List Token) : Option (Ident × CasePattern) :=
  match ts.dropWhile (!Token.isWord "fn" ·) with
  | [_, .ident name, .group .paren receiver _, .punct '-' .joint _, .punct '>' .alone _,
      .ident result, .group .brace body _] =>
    if Token.sameList receiver (code "& self") && result.text == "bool" then
      (matchedPattern? body).map fun pattern => (name, pattern)
    else none
  | _ => none

/-- What a detecting method returns on a value. -/
def detects? {variants : List Variant} {V : PayloadTypes variants} (v : EnumValue variants V)
    (ts : List Token) : Option Bool :=
  (detector? ts).bind fun (_, pattern) => pattern.matches? v

theorem CasePattern.read?_tokens (p : CasePattern) : read? p.tokens = some p := by
  obtain ⟨variant, shape⟩ := p
  cases shape <;> rfl

theorem matchedPattern?_body (p : CasePattern) :
    matchedPattern? (code ":: core :: matches !" ++ [parens (code "* self ," ++ p.tokens)]) =
      some p := by
  have head := Token.sameList_self (code ":: core :: matches !")
  have self := Token.sameList_self (code "* self ,")
  have inside : code "* self ," ++ p.tokens =
      .punct '*' .alone .callSite :: word "self" :: .punct ',' .alone .callSite :: p.tokens := rfl
  unfold matchedPattern?
  rw [List.getLast?_concat, List.dropLast_concat, inside]
  show (if _ = true then _ else none) = _
  rw [if_pos]
  · exact p.read?_tokens
  · rw [head]
    exact self

/-- **A detecting method is read as it was written.** -/
theorem detector?_tokens (d : Detector) (vis : Visibility) :
    detector? (d.method vis).tokens = some (d.name, d.pattern) := by
  have receiver := Token.sameList_self (code "& self")
  unfold detector?
  rw [Method.dropWhile_tokens]
  show (if _ = true then Option.map _ (matchedPattern? (code ":: core :: matches !" ++
    [parens (code "* self ," ++ d.pattern.tokens)])) else none) = _
  rw [if_pos]
  · rw [matchedPattern?_body]
    rfl
  · exact receiver

/-! ## 3. Enums -/

section Enums

variable {variants : List Variant}

/-- Variants with distinct methods have distinct names. -/
theorem Variant.unraw_injective (nodup : (variants.map Variant.detectorName).Nodup) :
    Function.Injective fun i : Fin variants.length => variants[i].ident.unraw := by
  intro i j same
  have inside : i.1 < (variants.map Variant.detectorName).length := by
    rw [List.length_map]
    exact i.2
  have names : variants[i].detectorName = variants[j].detectorName := by
    unfold Variant.detectorName
    dsimp only at same
    rw [same]
  have places : (variants.map Variant.detectorName)[i.1]? =
      (variants.map Variant.detectorName)[j.1]? := by
    rw [List.getElem?_map, List.getElem?_map, List.getElem?_eq_getElem i.2,
      List.getElem?_eq_getElem j.2]
    exact congrArg some names
  exact Fin.ext ((List.getElem?_inj inside nodup).mp places)

/-- **The pattern of a variant tells the values of that variant from all others.** -/
theorem matches?_pattern {V : PayloadTypes variants}
    (injective : Function.Injective fun i : Fin variants.length => variants[i].ident.unraw)
    (i : Fin variants.length) (v : EnumValue variants V) :
    (Detector.ofCase variants[i].case).pattern.matches? v = some (decide (i = v.variant)) := by
  have named : variantNamed? variants variants[i].ident = some i := find?_finRange injective i
  have legal : (variants[i].fields.shape).mayTest variants[i].fields.shape = true := by
    cases variants[i].fields.shape <;> rfl
  unfold CasePattern.matches?
  show (match variantNamed? variants variants[i].ident with | some i => _ | none => _) = _
  rw [named]
  exact if_pos legal

theorem detector?_detectorDecls (vis : Visibility) :
    ((detectorDecls variants vis).map fun ts => (detector? ts).map Prod.snd) =
      variants.map fun v => some ⟨v.ident, v.fields.shape⟩ := by
  unfold detectorDecls
  rw [List.map_map]
  refine List.map_congr_left fun v _ => ?_
  rw [Function.comp_apply, detector?_tokens]
  rfl

theorem detects?_detectorDecls {V : PayloadTypes variants}
    (injective : Function.Injective fun i : Fin variants.length => variants[i].ident.unraw)
    (vis : Visibility) (v : EnumValue variants V) :
    (detectorDecls variants vis).map (detects? v) =
      (List.finRange variants.length).map fun i => some (decide (i = v.variant)) := by
  refine List.ext_getElem ?_ fun k hk _ => ?_
  · simp [detectorDecls]
  · have inside : k < variants.length := by
      rw [List.length_map, detectorDecls, List.length_map] at hk
      exact hk
    have told := matches?_pattern injective ⟨k, inside⟩ v
    simp only [detectorDecls, List.getElem_map, List.getElem_finRange]
    unfold detects?
    rw [detector?_tokens]
    exact told

end Enums

/-- The declarations that are added. -/
def Addition.decls : Addition → List (List Token)
  | .declarations decls => decls
  | _ => []

/-- What an enum that is accepted gains, and that its names are distinct. -/
theorem Transform.caseDetection_eq_ok {head : TypeHead} {span : Span} {variants : List Variant}
    {trailing : Bool} {args : Arguments} {std : Bool} {reply : Reply}
    (accepted : Transform.caseDetection.run ⟨.item (.enum head span variants trailing), args, std⟩ =
      .ok reply) :
    reply.addition.decls = detectorDecls variants head.vis ∧
      (variants.map Variant.detectorName).Nodup := by
  cases h : Detector.clash? [] (variants.map Variant.case) with
  | some clash =>
    have run := caseDetection_of_clash head span trailing args std h
    rw [run] at accepted
    nomatch accepted
  | none =>
    have run := caseDetection_of_distinct head span trailing args std h
    rw [run] at accepted
    injection accepted with accepted
    subst accepted
    refine ⟨?_, Variant.nodup_of_clash? h⟩
    by_cases empty : variants = []
    · subst empty
      rfl
    · simp only [Reply.just, if_neg empty, Addition.decls]

/-- **The detecting methods partition the values of an enum.** If an enum is accepted, the methods
that it gains have one pattern for each variant, in order, which names that variant and has the form
for its shape. On every value, whatever its payload, the method of the value's own variant returns
`true` and each other method returns `false`. -/
theorem detectors_partition (head : TypeHead) (span : Span) (variants : List Variant)
    (trailing : Bool) (args : Arguments) (std : Bool) (reply : Reply)
    (accepted : Transform.caseDetection.run ⟨.item (.enum head span variants trailing), args, std⟩ =
      .ok reply) :
    (reply.addition.decls.map fun ts => (detector? ts).map Prod.snd) =
      (variants.map fun v => some ⟨v.ident, v.fields.shape⟩) ∧
    ∀ (V : PayloadTypes variants) (v : EnumValue variants V),
      reply.addition.decls.map (detects? v) =
        (List.finRange variants.length).map fun i => some (decide (i = v.variant)) := by
  obtain ⟨added, nodup⟩ := Transform.caseDetection_eq_ok accepted
  have injective := Variant.unraw_injective nodup
  rw [added]
  exact ⟨detector?_detectorDecls head.vis, fun V v => detects?_detectorDecls injective head.vis v⟩

/-- The variant of `enum Failure { Code(u16) }`. -/
def codeVariant : Variant :=
  ⟨[], .new "Code", .unnamed .callSite
    [⟨[], .inherited, none, .path (.mk none [.mk (.new "u16") .none])⟩] false, none⟩

/-- The method of that enum returns `true` on `Failure::Code(404)`. -/
theorem code_detected : ∃ reply,
    Transform.caseDetection.run
      ⟨.item (.enum failureHead .callSite [codeVariant] false), [], true⟩ = .ok reply ∧
    reply.addition.decls.map (detects? (⟨0, fun _ => (404 : Nat)⟩ : EnumValue [codeVariant]
      fun _ _ => Nat)) = [some true] := by
  have alone : Detector.clash? [] ([codeVariant].map Variant.case) = none := rfl
  have run := Transform.caseDetection_of_distinct failureHead .callSite false [] true alone
  have told := detectors_partition failureHead .callSite [codeVariant] false [] true _ run
  exact ⟨_, run, told.2 _ _⟩

end Graft
