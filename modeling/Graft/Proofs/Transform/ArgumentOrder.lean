import Graft.Proofs.Transform.AccessRequests

/-!
# The order of the arguments of a stored property

Two requests for accessors whose arguments are the same but for their order come to the same. An
argument keeps its position in the source when the list is rearranged, so two errors that are about
the same argument are at the same place.

* `SameOutcome`: the same accessors, or two diagnostics that tell the same problem. They are at one
  place unless they report an argument with a label that is not known.
* `accessorsOf_perm`: with known labels only, everything is looked up, and the look-ups agree.
* `accessorsOf_of_unknown`: with another label, both lists are refused by an argument that has it.
  Which one is found first is all that depends on the order.
* **`argument_order_irrelevant`**: so it is for all lists that were parsed.
-/

namespace Graft

/-- Two requests come to the same accessors, or to the same problem: to one id and one message. -/
def SameOutcome (x y : Except Diagnostic Reply) : Prop :=
  (∃ getter setter, x = .ok (.just (.accessors getter setter)) ∧
    y = .ok (.just (.accessors getter setter))) ∨
  ∃ d e : Diagnostic, x = .error d ∧ y = .error e ∧ d.problem = e.problem ∧
    (d.problem ≠ .wrongArgument → d = e)

namespace SameOutcome

/-- The same error, at the same place. -/
theorem error (d : Diagnostic) : SameOutcome (.error d) (.error d) :=
  .inr ⟨d, d, rfl, rfl, rfl, fun _ => rfl⟩

/-- Two arguments that are not known, at whatever places. -/
theorem wrong (ts us : List Token) :
    SameOutcome (.error (.on ts .wrongArgument)) (.error (.on us .wrongArgument)) := by
  refine .inr ⟨_, _, rfl, rfl, ?_, fun other => absurd (Diagnostic.problem_on ts _) other⟩
  rw [Diagnostic.problem_on, Diagnostic.problem_on]

end SameOutcome

namespace Transform

variable {args args' : Arguments}

/-- A list with a label that is not known is refused by an argument that has one. -/
theorem accessorsOf_of_unknown {a : Argument} (mem : a ∈ args) (unknown : ¬ a.Known)
    (d : PropertyDecl) :
    ∃ b ∈ args, accessorsOf args d = .error (.on b.tokens .wrongArgument) := by
  have wrong : args.find? (!isKnown ·) ≠ none :=
    fun h => unknown (find?_unknown_eq_none.mp h a mem)
  obtain ⟨b, found⟩ := Option.ne_none_iff_exists'.mp wrong
  exact ⟨b, List.mem_of_find?_eq_some found, accessorsOf_of_wrong d found⟩

/-- **With known labels only, the order does not matter**: everything is found by its label. -/
theorem accessorsOf_perm (distinct : args.Distinct) (distinct' : args'.Distinct)
    (perm : args.Perm args') (known : ∀ a ∈ args, a.Known) (d : PropertyDecl) :
    accessorsOf args d = accessorsOf args' d := by
  have known' : ∀ a ∈ args', a.Known := fun a mem => known a (perm.mem_iff.mpr mem)
  have found := distinct.labeled_perm distinct' perm
  simp only [accessorsOf, keyOf, storeOf, found, find?_unknown_eq_none.mpr known,
    find?_unknown_eq_none.mpr known']

end Transform

/-- **The order of the arguments does not matter.** For every declaration and any two lists that
were parsed and have the same arguments, both requests are answered with the same accessors, token
for token, or both fail with the same problem. Only where an argument is not known may they report
it at different places. -/
theorem argument_order_irrelevant {ts ts' : List Token} {args args' : Arguments}
    (parsed : Arguments.parse ts = .ok args) (parsed' : Arguments.parse ts' = .ok args')
    (perm : args.Perm args') (d : PropertyDecl) (std : Bool) :
    SameOutcome (Transform.storedAccess.run ⟨.property d, args, std⟩)
      (Transform.storedAccess.run ⟨.property d, args', std⟩) := by
  cases std with
  | false => exact .error (.overall .requiresStd)
  | true =>
    rw [Transform.storedAccess_run, Transform.storedAccess_run]
    by_cases known : ∀ a ∈ args, a.Known
    · rw [Transform.accessorsOf_perm (Arguments.parse_distinct parsed)
        (Arguments.parse_distinct parsed') perm known]
      cases Transform.accessorsOf args' d with
      | error e => exact .error e
      | ok a => exact .inl ⟨_, _, rfl, rfl⟩
    · obtain ⟨a, other⟩ := Classical.not_forall.mp known
      obtain ⟨mem, unknown⟩ := Classical.not_imp.mp other
      obtain ⟨b, -, failed⟩ := Transform.accessorsOf_of_unknown mem unknown d
      obtain ⟨c, -, failed'⟩ :=
        Transform.accessorsOf_of_unknown (perm.mem_iff.mp mem) unknown d
      rw [failed, failed']
      exact .wrong b.tokens c.tokens

/-- The tokens of `key = .., default_value = true`. -/
def reversedTokens (key : List Token) : List Token :=
  code "key =" ++ key ++ code ", default_value = true"

theorem reversedKey_parse :
    Arguments.parse (reversedTokens [.literal "\"k\"" .callSite]) =
      .ok (keyedArguments textKey).reverse := by
  cbv

/-- A flag is given the same accessors whether its key or its default comes first. -/
theorem keyedArguments_reversed :
    Arguments.parse (keyedTokens [.literal "\"k\"" .callSite]) = .ok (keyedArguments textKey) ∧
    Arguments.parse (reversedTokens [.literal "\"k\"" .callSite]) =
      .ok (keyedArguments textKey).reverse ∧
    (keyedArguments textKey).Perm (keyedArguments textKey).reverse ∧
    SameOutcome (Transform.storedAccess.run ⟨.property flagDecl, keyedArguments textKey, true⟩)
      (Transform.storedAccess.run
        ⟨.property flagDecl, (keyedArguments textKey).reverse, true⟩) := by
  have perm := (List.reverse_perm (keyedArguments textKey)).symm
  exact ⟨textKey_parse, reversedKey_parse, perm,
    argument_order_irrelevant textKey_parse reversedKey_parse perm flagDecl true⟩

end Graft
