import Graft.Proofs.Callback.Spellings
import Graft.Transform.Bridge

/-!
# Dropping the type parameter of a callback

A sibling has no callback, so it is declared without the type parameter that stands for one and
without the conditions on it. Two functions have to agree for this: the one that recognises the
callback tests where else the name occurs, and the other one removes what was not tested.

* `Generics.params_without`, `Generics.predicates_without`: what is left, in terms of what is
  declared.
* `Signature.forwarded_types`: the parameters that are passed on.
* **`callback_parameter_dropped`**: the name occurs in nothing that is left or passed on, and
  nothing else is dropped.
-/

namespace Graft

/-! ## 1. Generics that are left -/

instance (name : Ident) : DecidablePred (WherePredicate.Bounds name) :=
  fun _ => decidable_of_iff _ WherePredicate.boundsName_iff

instance (name : Ident) : DecidablePred (GenericParam.IsTypeNamed name) :=
  fun _ => decidable_of_iff _ GenericParam.isTypeNamed_iff

namespace Generics

variable (g : Generics) (name : Ident)

theorem params_without :
    (g.without name).params = g.params.filter fun q => ¬ q.IsTypeNamed name := by
  refine List.filter_congr fun q _ => ?_
  rw [decide_not, Bool.not_eq_eq_eq_not, Bool.not_not, Bool.eq_iff_iff, decide_eq_true_iff]
  exact GenericParam.isTypeNamed_iff

theorem predicates_without :
    (g.without name).predicates = g.predicates.filter fun q => ¬ q.Bounds name := by
  have tests : (g.predicates.filter fun q => ¬ q.Bounds name) =
      g.predicates.filter (!·.boundsName name) := by
    refine List.filter_congr fun q _ => ?_
    rw [decide_not, Bool.not_eq_eq_eq_not, Bool.not_not, Bool.eq_iff_iff, decide_eq_true_iff]
    exact WherePredicate.boundsName_iff.symm
  rw [tests]
  unfold without predicates
  cases g.clause with
  | none => rfl
  | some c =>
    dsimp only [Option.bind_some, WhereClause.without]
    cases c.predicates.filter (!·.boundsName name) <;> rfl

/-- The angle brackets are left out if nothing stands between them. -/
theorem paramParts_eq_nil : g.paramParts = [] ↔ g.params = [] := by
  unfold paramParts bracketed
  split
  · rename_i empty
    exact ⟨fun _ => List.isEmpty_iff.mp empty, fun _ => rfl⟩
  · rename_i other
    constructor
    · intro h
      nomatch h
    · intro h
      rw [h] at other
      exact absurd rfl other

/-- The `where` clause is left out if no condition is left. -/
theorem clause_without_eq_none :
    (g.without name).clause = none ↔ (g.without name).predicates = [] := by
  unfold without predicates
  cases g.clause with
  | none => simp
  | some c =>
    dsimp only [Option.bind_some, WhereClause.without]
    cases c.predicates.filter (!·.boundsName name) <;> simp

end Generics

/-! ## 2. Parameters that are passed on -/

/-- The type that a parameter is passed on with; a receiver is not passed on. -/
def FnArg.passedOn? : FnArg → Option Ty
  | .receiver _ => none
  | .typed _ _ _ t => some t
  | .dots _ span => some (.other .verbatim (Part.ofTokens (operatorAt span ['.', '.', '.'])))

theorem FnArg.passedOn?_eq (arg : FnArg) :
    (Signature.forwardable? arg).map Prod.snd = arg.passedOn? := by
  cases arg with
  | receiver r => rfl
  | dots attrs span => rfl
  | typed attrs pat colon t =>
    unfold Signature.forwardable?
    split <;> simp_all [passedOn?]

theorem Signature.forwarded_types (s : Signature) :
    s.forwarded.map Prod.snd = s.inputs.dropLast.filterMap FnArg.passedOn? := by
  have types : s.forwarded.map Prod.snd =
      (s.inputs.dropLast.filterMap forwardable?).map Prod.snd := by
    refine List.ext_getElem (by simp [forwarded]) fun i _ _ => ?_
    simp [forwarded]
  have each : (fun arg => (forwardable? arg).map Prod.snd) = FnArg.passedOn? :=
    funext FnArg.passedOn?_eq
  rw [types, List.map_filterMap, each]

/-- What is passed on of a parameter mentions nothing that the parameter does not. -/
theorem FnArg.mentions_passedOn {arg : FnArg} {t : Ty} (h : arg.passedOn? = some t) {name : Ident}
    (unmentioned : Part.mention arg.parts name = false) : t.mentions name = false := by
  cases arg with
  | receiver r => nomatch h
  | typed attrs pat colon u =>
    injection h with h
    subst h
    have whole : (FnArg.typed attrs pat colon u).parts =
        (outerParts attrs ++ pat.parts ++ [.token (.punct ':' .alone colon)]) ++ [.ty u] := by
      simp [FnArg.parts]
    rw [whole, Part.mention_append, Part.mention_ty, Bool.or_eq_false_iff] at unmentioned
    exact unmentioned.2
  | dots attrs span =>
    injection h with h
    subst h
    unfold Ty.mentions
    rw [Ty.heads, Part.headsOf_ofTokens, List.any_nil]

/-! ## 3. Without the callback's parameter -/

/-- **Generics and types of parameters that do without a type parameter**: its name occurs in none
of them, and nothing else is missing. -/
structure Signature.DoneWithout (s : Signature) (name : Ident) (g : Generics) (types : List Ty) :
    Prop where
  /-- No type mentions the name. -/
  types_unmentioned : ∀ t ∈ types, t.mentions name = false
  /-- No generic parameter mentions the name. -/
  params_unmentioned : ∀ q ∈ g.params, Part.mention q.parts name = false
  /-- No condition mentions the name. -/
  predicates_unmentioned : ∀ q ∈ g.predicates, Part.mention q.parts name = false
  /-- Every generic parameter but the one of this name is kept. -/
  params_kept : g.params = s.generics.params.filter fun q => ¬ q.IsTypeNamed name
  /-- Every condition but those on the name is kept. -/
  predicates_kept : g.predicates = s.generics.predicates.filter fun q => ¬ q.Bounds name
  /-- The angle brackets are left out exactly if they would be empty. -/
  brackets : g.paramParts = [] ↔ g.params = []
  /-- The `where` clause is left out exactly if it would be empty. -/
  clause : g.clause = none ↔ g.predicates = []
  /-- Every parameter in front of the callback but a receiver is passed on. -/
  types_kept : ∃ leading callback, s.inputs = leading ++ [callback] ∧
    types = leading.filterMap FnArg.passedOn?

theorem Spelled.doneWithout {bounds : List Bound} {leading : List FnArg} {s : Signature}
    {passing : Passing} {name : Ident} (h : Spelled bounds leading s.output s passing (some name)) :
    s.DoneWithout name (s.generics.without name) (s.forwarded.map Prod.snd) := by
  generalize declared : some name = generic at h
  cases h with
  | onTheSpot => nomatch declared
  | @parameter attrs pat colon t used p before after more inputs returns wrapped declares named
      first others conditions split notLeading notOutput =>
    injection declared with declared
    subst declared
    -- The name is looked for as it is used, and dropped as it is declared: only its text counts.
    have sameParam : ∀ q : GenericParam, q.IsTypeNamed p.ident ↔ q.IsTypeNamed used := by
      intro q
      rw [GenericParam.IsTypeNamed, GenericParam.IsTypeNamed, named]
    have sameBound : ∀ q : WherePredicate, q.Bounds p.ident ↔ q.Bounds used := by
      intro q
      simp only [WherePredicate.Bounds, Ty.Names, named]
    have types : s.forwarded.map Prod.snd = leading.filterMap FnArg.passedOn? := by
      rw [s.forwarded_types, inputs, List.dropLast_concat]
    refine ⟨?_, ?_, ?_, Generics.params_without .., Generics.predicates_without ..,
      Generics.paramParts_eq_nil _, Generics.clause_without_eq_none .., leading, _, inputs, types⟩
    · intro t mem
      rw [types] at mem
      obtain ⟨arg, argMem, passed⟩ := List.mem_filterMap.mp mem
      rw [Ty.mentions_congr t named]
      exact FnArg.mentions_passedOn passed (notLeading arg argMem)
    · intro q mem
      rw [Generics.params_without, List.mem_filter, decide_eq_true_iff, sameParam] at mem
      rw [Part.mention_congr _ named]
      exact others q mem.1 mem.2
    · intro q mem
      rw [Generics.predicates_without, List.mem_filter, decide_eq_true_iff, sameBound] at mem
      rw [Part.mention_congr _ named]
      refine conditions.unmentioned q mem.1 (Bool.eq_false_iff.mpr fun bounds => mem.2 ?_)
      exact WherePredicate.boundsName_iff.mp bounds

/-- **The callback's type parameter is dropped, and nothing else.** If a type parameter stands for
the callback of a function, its name occurs neither in the generics without it nor in the types of
the parameters that are passed on; every other generic parameter, every condition on something else
and every type in front of the callback is kept as it is and in order. These are the generics and
the types that the sibling is declared with. -/
theorem callback_parameter_dropped {s : Signature} {c : Callback} {name : Ident}
    (found : s.callback? = some c) (generic : c.generic = some name) :
    s.DoneWithout name (s.generics.without name) (s.forwarded.map Prod.snd) ∧
    ∀ b : Sibling, b.source.sig = s → b.callback = c →
      b.method.generics = s.generics.without name ∧
      b.method.params.map Prod.snd = (s.forwarded.map Prod.snd).map Ty.tokens := by
  constructor
  · obtain ⟨bounds, leading, -, spelled, -⟩ := Signature.spelled_of_callback? found
    rw [generic] at spelled
    exact spelled.doneWithout
  · rintro b rfl rfl
    constructor
    · simp only [Sibling.method, Sibling.generics, generic]
    · simp only [Sibling.method, List.map_map, Function.comp_def]

/-- The type parameter `T`. -/
def plainParam : TypeParam := ⟨[], .new "T", [], false, none⟩

/-- The condition `T: Send`. -/
def plainSendable : WherePredicate := .type none (nameTy "T") [sendable] false

/-- `fn fetch<T, F: Send>(id: u32, done: F) where T: Send, F: FnOnce(String)`. -/
def conditionedFetch : Signature :=
  fetchWith ⟨[.type plainParam, .type sendableParam], false,
    some ⟨.callSite, [plainSendable, .type none (nameTy "F") [takesOnce (nameTy "String")] false],
      false⟩⟩
    (nameTy "F")

/-- Without `F` and what is asked of it, `T` and what is asked of that is left, and the number is
passed on. -/
theorem conditionedFetch_doneWithout :
    conditionedFetch.callback? = some ⟨nameTy "String", .direct, some (.new "F")⟩ ∧
    conditionedFetch.DoneWithout (.new "F")
      ⟨[.type plainParam], false, some ⟨.callSite, [plainSendable], false⟩⟩ [nameTy "u32"] := by
  have found : conditionedFetch.callback? =
      some ⟨nameTy "String", .direct, some (.new "F")⟩ := rfl
  exact ⟨found, (callback_parameter_dropped found rfl).1⟩

end Graft
