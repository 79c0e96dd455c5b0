import Graft.Callback

/-!
# Shapes of types

What the tests of a type look for, told by how the type is built.

* `Ty.Wraps`: a type in parentheses and invisible groups, which `Ty.peel` takes off.
* `Ty.Names`, `Ty.IsReference`: a type that is just a name, and one that is a reference.
* `Ty.Applies`: a type such as `Option<T>`; `Ty.unwrap?_eq_some` finds its argument.
* `Part.mention_append`, `Part.mention_flatMap`: pieces mention what one of them mentions.
* `Part.tokensOf_append`: pieces are written one behind the other.
-/

namespace Graft

/-! ## 1. Types in parentheses -/

namespace Ty

/-- A type in any number of parentheses and invisible groups. -/
inductive Wraps (inner : Ty) : Ty → Prop
  | bare : Wraps inner inner
  | paren (s : Span) {t : Ty} (h : Wraps inner t) : Wraps inner (.paren s t)
  | group (s : Span) {t : Ty} (h : Wraps inner t) : Wraps inner (.group s t)

/-- A type that is just this name. -/
def Names (name : Ident) (t : Ty) : Prop :=
  ∃ i : Ident, i.text = name.text ∧ (Ty.path (.mk none [.mk i .none])).Wraps t

/-- A reference, perhaps in parentheses. -/
def IsReference (t : Ty) : Prop :=
  ∃ amp lifetime mutable inner, (Ty.reference amp lifetime mutable inner).Wraps t

theorem Wraps.peel_eq {inner t : Ty} (h : inner.Wraps t) : t.peel = inner.peel := by
  induction h with
  | bare => rfl
  | paren s h ih => rw [peel, ih]
  | group s h ih => rw [peel, ih]

theorem wraps_peel : ∀ t : Ty, t.peel.Wraps t
  | .paren s t => .paren s (wraps_peel t)
  | .group s t => .group s (wraps_peel t)
  | .path _ | .reference _ _ _ _ | .implTrait _ _ _ | .traitObject _ _ _ | .tuple _ _ _
  | .other _ _ => .bare

theorem Wraps.heads_eq {inner t : Ty} (h : inner.Wraps t) : t.heads = inner.heads := by
  induction h with
  | bare => rfl
  | paren s h ih => rw [heads, ih]
  | group s h ih => rw [heads, ih]

theorem isReference_peel {t : Ty} : t.peel.isReference = true ↔ t.IsReference := by
  constructor
  · intro h
    have wrapped := t.wraps_peel
    revert h wrapped
    cases t.peel with
    | reference amp lifetime mutable inner =>
      intro _ wrapped
      exact ⟨amp, lifetime, mutable, inner, wrapped⟩
    | _ => exact fun h => nomatch h
  · rintro ⟨amp, lifetime, mutable, inner, wrapped⟩
    rw [wrapped.peel_eq]
    rfl

end Ty

theorem Path.single?_eq_some {p : Path} {i : Ident} :
    p.single? = some i ↔ p = .mk none [.mk i .none] := by
  constructor
  · intro h
    unfold single? at h
    split at h
    · injection h with h
      rw [h]
    · nomatch h
  · rintro rfl
    rfl

theorem Path.last?_concat (leading : Option Span) (front : List Segment) (seg : Segment) :
    (Path.mk leading (front ++ [seg])).last? = some seg := List.getLast?_concat

theorem Path.last?_eq_some {p : Path} {seg : Segment} :
    p.last? = some seg ↔ ∃ leading front, p = .mk leading (front ++ [seg]) := by
  obtain ⟨leading, segments⟩ := p
  constructor
  · intro h
    obtain ⟨front, rfl⟩ := List.getLast?_eq_some_iff.mp h
    exact ⟨leading, front, rfl⟩
  · rintro ⟨leading', front, h⟩
    rw [h, last?_concat]

theorem Ty.isName_iff {t : Ty} {name : Ident} : t.isName name = true ↔ t.Names name := by
  constructor
  · intro h
    have wrapped := t.wraps_peel
    unfold isName at h
    split at h
    · rename_i p found
      split at h
      · rename_i i single
        rw [found, Path.single?_eq_some.mp single] at wrapped
        exact ⟨i, beq_iff_eq.mp h, wrapped⟩
      · nomatch h
    · nomatch h
  · rintro ⟨i, same, wrapped⟩
    unfold isName
    rw [wrapped.peel_eq]
    exact beq_iff_eq.mpr same

theorem Ty.Names.mentions {t : Ty} {name : Ident} (h : t.Names name) : t.mentions name = true := by
  obtain ⟨i, same, wrapped⟩ := h
  unfold Ty.mentions
  rw [wrapped.heads_eq]
  simp [Ty.heads, Path.heads, Ident.same, same]

/-! ## 2. Types with one argument -/

/-- The only type among generic arguments. -/
def GenericArg.OnlyTy (args : List GenericArg) (t : Ty) : Prop :=
  ∃ before after, args = before ++ .ty t :: after ∧ ∀ a ∈ before ++ after, ∀ u, a ≠ .ty u

/-- A type that is written `wrapper<arg>`, whatever path leads to the wrapper. -/
inductive Ty.Applies (wrapper : String) (arg : Ty) : Ty → Prop
  | mk {leading : Option Span} {front : List Segment} {ident : Ident} {colons trailing : Bool}
      {lt gt : Span} {args : List GenericArg} (named : ident.text = wrapper)
      (only : GenericArg.OnlyTy args arg) :
      Applies wrapper arg
        (.path (.mk leading (front ++ [.mk ident (.angle colons lt gt args trailing)])))

/-- The type that an argument is. -/
def GenericArg.ty? : GenericArg → Option Ty
  | .ty t => some t
  | _ => none

theorem GenericArg.ty?_eq_some {a : GenericArg} {t : Ty} : a.ty? = some t ↔ a = .ty t := by
  cases a <;> simp [ty?]

theorem GenericArg.ty?_eq_none {a : GenericArg} : a.ty? = none ↔ ∀ t, a ≠ .ty t := by
  cases a <;> simp [ty?]

theorem GenericArg.filterMap_ty? {args : List GenericArg} {t : Ty} :
    args.filterMap ty? = [t] ↔ OnlyTy args t := by
  constructor
  · intro h
    obtain ⟨before, a, after, rfl, none, found, rest⟩ := List.filterMap_eq_cons_iff.mp h
    rw [List.filterMap_eq_nil_iff] at rest
    obtain rfl := ty?_eq_some.mp found
    refine ⟨before, after, rfl, fun a mem => ty?_eq_none.mp ?_⟩
    exact (List.mem_append.mp mem).elim (none a) (rest a)
  · rintro ⟨before, after, rfl, others⟩
    refine List.filterMap_eq_cons_iff.mpr ⟨before, _, after, rfl, ?_, rfl, ?_⟩
    · exact fun a mem => ty?_eq_none.mpr (others a (List.mem_append_left _ mem))
    · refine List.filterMap_eq_nil_iff.mpr fun a mem => ?_
      exact ty?_eq_none.mpr (others a (List.mem_append_right _ mem))

theorem GenericArg.singleTy?_eq_some {args : List GenericArg} {t : Ty} :
    singleTy? args = some t ↔ OnlyTy args t := by
  rw [← filterMap_ty?]
  unfold singleTy?
  constructor
  · intro h
    split at h
    · rename_i u only
      injection h with h
      subst h
      exact only
    · nomatch h
  · intro only
    split
    · rename_i u found
      exact congrArg some (List.singleton_inj.mp (found.symm.trans only))
    · rename_i several
      exact absurd only (several t)

theorem Ty.unwrap?_eq_some {wrapper : String} {t arg : Ty} :
    Ty.unwrap? wrapper t = some arg ↔ Ty.Applies wrapper arg t := by
  constructor
  · intro h
    cases t with
    | path p =>
      unfold unwrap? at h
      dsimp only at h
      split at h
      · rename_i ident colons lt gt args trailing last
        obtain ⟨leading, front, rfl⟩ := Path.last?_eq_some.mp last
        split at h
        · rename_i named
          exact .mk (beq_iff_eq.mp named) (GenericArg.singleTy?_eq_some.mp h)
        · nomatch h
      · nomatch h
    | _ => nomatch h
  · rintro @⟨leading, front, ident, colons, trailing, lt, gt, args, named, only⟩
    unfold unwrap?
    dsimp only
    rw [Path.last?_concat]
    exact (if_pos (beq_iff_eq.mpr named)).trans (GenericArg.singleTy?_eq_some.mpr only)

/-! ## 3. Mentions -/

namespace Part

theorem headsOf_append (ps qs : List Part) : headsOf (ps ++ qs) = headsOf ps ++ headsOf qs := by
  induction ps with
  | nil => simp only [List.nil_append, headsOf]
  | cons p ps ih => simp only [List.cons_append, headsOf, ih, List.append_assoc]

theorem headsOf_ofTokens (ts : List Token) : headsOf (ofTokens ts) = [] := by
  induction ts with
  | nil => simp only [ofTokens, List.map_nil, headsOf]
  | cons t ts ih =>
    simp only [ofTokens, List.map_cons, headsOf, heads, List.nil_append] at ih ⊢
    exact ih

theorem mention_append (ps qs : List Part) (name : Ident) :
    mention (ps ++ qs) name = (mention ps name || mention qs name) := by
  simp only [mention, headsOf_append, List.any_append]

/-- Pieces mention what one of them mentions. -/
theorem mention_flatMap {α : Type} (f : α → List Part) (xs : List α) (name : Ident) :
    mention (xs.flatMap f) name = xs.any fun x => mention (f x) name := by
  induction xs with
  | nil => simp only [List.flatMap_nil, mention, headsOf, List.any_nil]
  | cons x xs ih => rw [List.flatMap_cons, mention_append, ih, List.any_cons]

theorem mention_ofTokens (ts : List Token) (name : Ident) : mention (ofTokens ts) name = false := by
  rw [mention, headsOf_ofTokens, List.any_nil]

theorem mention_ty (t : Ty) (name : Ident) : mention [.ty t] name = t.mentions name := by
  simp only [mention, headsOf, heads, List.append_nil, Ty.mentions]

/-- Only the spelling of a name counts. -/
theorem mention_congr (ps : List Part) {a b : Ident} (same : a.text = b.text) :
    mention ps a = mention ps b := by
  simp only [mention, Ident.same, same]

end Part

theorem Ty.mentions_congr (t : Ty) {a b : Ident} (same : a.text = b.text) :
    t.mentions a = t.mentions b := by
  simp only [Ty.mentions, Ident.same, same]

/-! ## 4. Tokens of pieces -/

namespace Part

theorem tokensOf_append (ps qs : List Part) :
    tokensOf (ps ++ qs) = tokensOf ps ++ tokensOf qs := by
  induction ps with
  | nil => simp only [List.nil_append, tokensOf]
  | cons p ps ih => simp only [List.cons_append, tokensOf, ih, List.append_assoc]

theorem tokensOf_ofTokens (ts : List Token) : tokensOf (ofTokens ts) = ts := by
  induction ts with
  | nil => simp only [ofTokens, List.map_nil, tokensOf]
  | cons t ts ih =>
    simp only [ofTokens, List.map_cons, tokensOf, Part.tokens] at ih ⊢
    rw [ih, List.singleton_append]

theorem tokensOf_attrs (attrs : List Attribute) :
    tokensOf (attrs.map .attr) = attributeTokens attrs := by
  induction attrs with
  | nil => rfl
  | cons a attrs ih =>
    rw [List.map_cons, tokensOf, ih, attributeTokens, attributeTokens, List.flatMap_cons,
      Part.tokens]

/-- Attributes in front of something are written in order. -/
theorem tokensOf_outerParts {attrs : List Attribute} (outer : ∀ a ∈ attrs, a.inner = false) :
    tokensOf (outerParts attrs) = attributeTokens attrs := by
  have hall : attrs.filter (!·.inner) = attrs :=
    List.filter_eq_self.mpr fun a ha => by rw [outer a ha]; rfl
  rw [outerParts, hall, tokensOf_attrs]

end Part

end Graft
