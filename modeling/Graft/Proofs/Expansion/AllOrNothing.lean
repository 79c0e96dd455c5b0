import Graft.Proofs.Expansion.Placement

/-!
# Expansions are all or nothing

An expansion that reports an error reports nothing else and adds nothing. Its stages are the name,
the arguments, the site and the transform; the first one that fails supplies the diagnostic.

* `AttachedFailure`, `InvokedFailure`: the stages that can fail, each with its diagnostic and the
  tokens that it leaves.
* `AllOrNothing`: what the diagnostics and the tokens of an expansion say of each other.
* **`expansion_all_or_nothing`**: every expansion is all or nothing, attached or invoked.
-/

namespace Graft

/-! ## 1. Stages -/

/-- The first stage of an attached expansion that fails, with its diagnostic and the tokens that are
left: the item as it was given, or the site as it was read once the transform itself fails. -/
inductive AttachedFailure (std : Bool) (name : String) (attr item : List Token) :
    Diagnostic → List Token → Prop
  | name {d : Diagnostic} (unknown : Transform.resolve name = .error d) :
      AttachedFailure std name attr item d item
  | arguments {t : Transform} {d : Diagnostic} (named : Transform.resolve name = .ok t)
      (malformed : Arguments.parse attr = .error d) : AttachedFailure std name attr item d item
  | site {t : Transform} {args : Arguments} {d : Diagnostic}
      (named : Transform.resolve name = .ok t) (read : Arguments.parse attr = .ok args)
      (malformed : Site.parse t.placement item = .error d) :
      AttachedFailure std name attr item d item
  | transform {t : Transform} {args : Arguments} {site : Site} {d : Diagnostic}
      (named : Transform.resolve name = .ok t) (read : Arguments.parse attr = .ok args)
      (placed : Site.parse t.placement item = .ok site)
      (refused : t.run ⟨site, args, std⟩ = .error d) :
      AttachedFailure std name attr item d site.tokens

/-- The first stage of an invoked expansion that fails, with its diagnostic. No tokens are left. -/
inductive InvokedFailure (std : Bool) (name : String) (input : List Token) :
    Diagnostic → List Token → Prop
  | name {d : Diagnostic} (unknown : Transform.resolve name = .error d) :
      InvokedFailure std name input d []
  | arguments {t : Transform} {d : Diagnostic} (named : Transform.resolve name = .ok t)
      (malformed : Arguments.parse input = .error d) : InvokedFailure std name input d []
  | transform {t : Transform} {args : Arguments} {d : Diagnostic}
      (named : Transform.resolve name = .ok t) (read : Arguments.parse input = .ok args)
      (refused : t.run ⟨.invocation, args, std⟩ = .error d) : InvokedFailure std name input d []

/-- An expansion that either fails, reporting the one stage that does, or reports nothing but the
warning it was asked for. -/
structure AllOrNothing (name : String) (fails : Diagnostic → List Token → Prop) (e : Expansion) :
    Prop where
  /-- An error stands alone, and the tokens are those that its stage leaves. -/
  failed : e.failed = true → ∃ d, e.diagnostics = [d] ∧ d.isError = true ∧ fails d e.tokens
  /-- A stage that fails makes the expansion fail. -/
  reported : ∀ d ts, fails d ts → e.failed = true ∧ e.diagnostics = [d] ∧ e.tokens = ts
  /-- Without an error there is nothing to report. -/
  quiet : e.failed = false → name ≠ "warning" → e.diagnostics = []
  /-- A warning that was asked for is reported once. -/
  warned : e.failed = false → name = "warning" →
    ∃ d, e.diagnostics = [d] ∧ d.problem.severity = .warning

/-! ## 2. Each stage fails with an error -/

theorem Transform.named?_eq_some {name : String} {t : Transform}
    (h : Transform.named? name = some t) : t.name = name := by
  have := List.find?_some h
  exact beq_iff_eq.mp this

theorem Transform.resolve_eq_ok {name : String} {t : Transform}
    (h : Transform.resolve name = .ok t) : t.name = name := by
  unfold Transform.resolve at h
  split at h
  · rename_i t' ht
    injection h with h
    rw [← h]
    exact Transform.named?_eq_some ht
  · cases h

/-- Only `warning` is called so. -/
theorem Transform.resolve_warning_iff {name : String} {t : Transform}
    (h : Transform.resolve name = .ok t) : t = .warning ↔ name = "warning" := by
  rw [← Transform.resolve_eq_ok h]
  cases t <;> decide

theorem Transform.resolve_onlyErrors (name : String) : OnlyErrors (Transform.resolve name) := by
  unfold Transform.resolve
  split
  · exact .ok _
  · exact .error rfl

theorem Arguments.parse_onlyErrors (ts : List Token) : OnlyErrors (Arguments.parse ts) := by
  unfold Arguments.parse
  split
  · exact .error rfl
  · split
    · exact .error rfl
    · exact .ok _

theorem Site.parse_onlyErrors (placement : Placement) (ts : List Token) :
    OnlyErrors (Site.parse placement ts) := by
  unfold Site.parse
  dsimp only
  split
  · exact .ok _
  · exact .error rfl

theorem AttachedFailure.isError {std : Bool} {name : String} {attr item ts : List Token}
    {d : Diagnostic} (h : AttachedFailure std name attr item d ts) : d.isError = true := by
  cases h with
  | name unknown => exact Transform.resolve_onlyErrors name d unknown
  | arguments named malformed => exact Arguments.parse_onlyErrors attr d malformed
  | site named read malformed => exact Site.parse_onlyErrors _ item d malformed
  | transform named read placed refused => exact Transform.run_onlyErrors _ _ d refused

theorem InvokedFailure.isError {std : Bool} {name : String} {input ts : List Token}
    {d : Diagnostic} (h : InvokedFailure std name input d ts) : d.isError = true := by
  cases h with
  | name unknown => exact Transform.resolve_onlyErrors name d unknown
  | arguments named malformed => exact Arguments.parse_onlyErrors input d malformed
  | transform named read refused => exact Transform.run_onlyErrors _ _ d refused

/-! ## 3. Expansions of failing stages -/

theorem Transform.expandAt_of_error {t : Transform} {r : Request} {d : Diagnostic}
    (h : t.run r = .error d) : t.expandAt r = ⟨r.site.tokens, [d]⟩ := by
  unfold Transform.expandAt Transform.invoke
  rw [h]
  rfl

theorem expandAttached_of_error {std : Bool} {name : String} {attr item : List Token}
    {d : Diagnostic} (h : attachment std name attr item = .error d) :
    expandAttached std name attr item = ⟨item, [d]⟩ := by
  unfold expandAttached
  rw [h]

theorem expandInvoked_of_error {std : Bool} {name : String} {input : List Token}
    {d : Diagnostic} (h : invocation std name input = .error d) :
    expandInvoked std name input = ⟨[], [d]⟩ := by
  unfold expandInvoked
  rw [h]

theorem AttachedFailure.expandAttached_eq {std : Bool} {name : String} {attr item ts : List Token}
    {d : Diagnostic} (h : AttachedFailure std name attr item d ts) :
    expandAttached std name attr item = ⟨ts, [d]⟩ := by
  cases h with
  | name unknown =>
    apply expandAttached_of_error
    unfold attachment
    rw [unknown]
    rfl
  | arguments named malformed =>
    apply expandAttached_of_error
    unfold attachment
    rw [named, malformed]
    rfl
  | @site t args d named read malformed =>
    apply expandAttached_of_error
    unfold attachment
    rw [named, read]
    show (Site.parse t.placement item >>= _) = _
    rw [malformed]
    rfl
  | transform named read placed refused =>
    rw [expandAttached_of_ok (attachment_of_ok named read placed)]
    exact Transform.expandAt_of_error refused

theorem InvokedFailure.expandInvoked_eq {std : Bool} {name : String} {input ts : List Token}
    {d : Diagnostic} (h : InvokedFailure std name input d ts) :
    expandInvoked std name input = ⟨ts, [d]⟩ := by
  cases h with
  | name unknown =>
    apply expandInvoked_of_error
    unfold invocation
    rw [unknown]
    rfl
  | arguments named malformed =>
    apply expandInvoked_of_error
    unfold invocation
    rw [named, malformed]
    rfl
  | transform named read refused =>
    rw [expandInvoked_of_ok (invocation_of_ok named read)]
    exact Transform.expandAt_of_error refused

/-! ## 4. All or nothing -/

theorem failed_of_error {ts : List Token} {d : Diagnostic} (h : d.isError = true) :
    (Expansion.mk ts [d]).failed = true := by
  simp only [Expansion.failed, List.any_cons, List.any_nil, Bool.or_false, h]

section

variable {name : String} {fails : Diagnostic → List Token → Prop} {e : Expansion}
  (herror : ∀ d ts, fails d ts → d.isError = true) (heq : ∀ d ts, fails d ts → e = ⟨ts, [d]⟩)

include herror heq

theorem failed_of_failure {d : Diagnostic} {ts : List Token} (h : fails d ts) :
    e.failed = true ∧ e.diagnostics = [d] ∧ e.tokens = ts := by
  rw [heq d ts h]
  exact ⟨failed_of_error (herror d ts h), rfl, rfl⟩

/-- An expansion in which some stage fails. -/
theorem AllOrNothing.of_failure {d : Diagnostic} {ts : List Token} (h : fails d ts) :
    AllOrNothing name fails e := by
  obtain ⟨hfailed, hdiagnostics, htokens⟩ := failed_of_failure herror heq h
  have hnot : ¬ e.failed = false := by
    rw [hfailed]
    exact Bool.noConfusion
  refine ⟨fun _ => ⟨d, hdiagnostics, herror d ts h, ?_⟩,
    fun _ _ => failed_of_failure herror heq, fun h => absurd h hnot, fun h => absurd h hnot⟩
  rw [htokens]
  exact h

/-- An expansion in which no stage fails, so that it comes to what the transform answers. -/
theorem AllOrNothing.of_reply {t : Transform} {r : Request} {reply : Reply}
    (hname : Transform.resolve name = .ok t) (hrun : t.run r = .ok reply)
    (hexpand : e = t.expandAt r) : AllOrNothing name fails e := by
  have hreplies := Transform.run_replies hrun
  have hnotes : e.diagnostics = reply.notes := by
    rw [hexpand]
    exact (Transform.expandAt_of_ok hrun).1
  have hnot : ¬ e.failed = true := by
    unfold Expansion.failed
    rw [hnotes, hreplies.notes_quiet]
    exact Bool.noConfusion
  refine ⟨fun h => absurd h hnot, fun _ _ => failed_of_failure herror heq,
    fun _ hne => ?_, fun _ hwarning => ?_⟩
  · rcases hreplies.notes with ⟨-, hnil⟩ | ⟨ht, -⟩
    · rw [hnotes, hnil]
    · exact absurd ((Transform.resolve_warning_iff hname).mp ht) hne
  · rcases hreplies.notes with ⟨ht, -⟩ | ⟨-, e, text, hone⟩
    · exact absurd ((Transform.resolve_warning_iff hname).mpr hwarning) ht
    · rw [hnotes, hone]
      exact ⟨_, rfl, Diagnostic.severity_warning _ _⟩

end

theorem expandAttached_allOrNothing (std : Bool) (name : String) (attr item : List Token) :
    AllOrNothing name (AttachedFailure std name attr item)
      (expandAttached std name attr item) := by
  have herror d ts (h : AttachedFailure std name attr item d ts) := h.isError
  have heq d ts (h : AttachedFailure std name attr item d ts) := h.expandAttached_eq
  cases hname : Transform.resolve name with
  | error d => exact .of_failure herror heq (.name hname)
  | ok t =>
    cases hargs : Arguments.parse attr with
    | error d => exact .of_failure herror heq (.arguments hname hargs)
    | ok args =>
      cases hsite : Site.parse t.placement item with
      | error d => exact .of_failure herror heq (.site hname hargs hsite)
      | ok site =>
        cases hrun : t.run ⟨site, args, std⟩ with
        | error d => exact .of_failure herror heq (.transform hname hargs hsite hrun)
        | ok reply =>
          exact .of_reply herror heq hname hrun
            (expandAttached_of_ok (attachment_of_ok hname hargs hsite))

theorem expandInvoked_allOrNothing (std : Bool) (name : String) (input : List Token) :
    AllOrNothing name (InvokedFailure std name input) (expandInvoked std name input) := by
  have herror d ts (h : InvokedFailure std name input d ts) := h.isError
  have heq d ts (h : InvokedFailure std name input d ts) := h.expandInvoked_eq
  cases hname : Transform.resolve name with
  | error d => exact .of_failure herror heq (.name hname)
  | ok t =>
    cases hargs : Arguments.parse input with
    | error d => exact .of_failure herror heq (.arguments hname hargs)
    | ok args =>
      cases hrun : t.run ⟨.invocation, args, std⟩ with
      | error d => exact .of_failure herror heq (.transform hname hargs hrun)
      | ok reply =>
        exact .of_reply herror heq hname hrun (expandInvoked_of_ok (invocation_of_ok hname hargs))

/-- **Every expansion is all or nothing**, whatever the name, the arguments and the item are, with
and without the standard library. -/
theorem expansion_all_or_nothing (std : Bool) (name : String) (attr item input : List Token) :
    AllOrNothing name (AttachedFailure std name attr item) (expandAttached std name attr item) ∧
      AllOrNothing name (InvokedFailure std name input) (expandInvoked std name input) :=
  ⟨expandAttached_allOrNothing std name attr item, expandInvoked_allOrNothing std name input⟩

end Graft
