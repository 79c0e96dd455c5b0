import Mathlib.Tactic.Common
import Graft.Tree.Same

/-!
# Trees without their positions

`unplaced` moves a token, a node or a tree to the call site as a whole: every position in it is
replaced, and nothing else. Two trees are the same iff they are equal once moved.

* `Token.sameList_iff`: lists of tokens with the same pieces are the same trees. A flattened group
  can be told from what follows it, since its delimiters match.
* `Ty.same_iff`: the comparison of types is equality up to positions.
-/

namespace Graft

/-! ## 1. Tokens -/

/-- An identifier at the call site. -/
def Ident.unplaced (i : Ident) : Ident := .new i.text

mutual

/-- A token tree at the call site. -/
def Token.unplaced : Token → Token
  | .ident i => .ident i.unplaced
  | .punct c s _ => .punct c s .callSite
  | .literal t _ => .literal t .callSite
  | .group d inner _ => .group d (Token.unplacedAll inner) .callSite

/-- Token trees at the call site. -/
def Token.unplacedAll : List Token → List Token
  | [] => []
  | t :: rest => t.unplaced :: Token.unplacedAll rest

end

theorem Ident.same_iff (a b : Ident) : a.same b = true ↔ a.unplaced = b.unplaced := by
  simp [same, unplaced, new]

namespace Token

/-- What may stand behind a list of flattened tokens: nothing, or the end of the group they
are in. -/
def Ends (rest : List Atom) : Prop := rest = [] ∨ ∃ d more, rest = .closing d :: more

theorem not_ends_atoms (t : Token) (rest : List Atom) : ¬ Ends (t.atoms ++ rest) := by
  cases t <;> simp [Ends, atoms]

mutual

theorem atoms_append_inj : ∀ (t u : Token) (r r' : List Atom), t.atoms ++ r = u.atoms ++ r' →
    t.unplaced = u.unplaced ∧ r = r'
  | .ident _, u, _, _, h => by cases u <;> simp_all [atoms, unplaced, Ident.unplaced]
  | .punct _ _ _, u, _, _, h => by cases u <;> simp_all [atoms, unplaced]
  | .literal _ _, u, _, _, h => by cases u <;> simp_all [atoms, unplaced]
  | .group d inner _, u, r, r', h => by
    cases u with
    | group d' inner' s' =>
      simp only [atoms, List.cons_append, List.append_assoc, List.cons.injEq] at h
      obtain ⟨same, rests⟩ := atomsOf_append_inj inner inner' (.closing d :: r) (.closing d' :: r')
        (.inr ⟨d, r, rfl⟩) (.inr ⟨d', r', rfl⟩) h.2
      simp_all [unplaced]
    | _ => simp [atoms] at h

theorem atomsOf_append_inj : ∀ (ts us : List Token) (r r' : List Atom), Ends r → Ends r' →
    atomsOf ts ++ r = atomsOf us ++ r' → unplacedAll ts = unplacedAll us ∧ r = r'
  | [], [], _, _, _, _, h => ⟨rfl, h⟩
  | [], u :: us, r, r', ends, _, h => by
    rw [atomsOf, atomsOf, List.nil_append, List.append_assoc] at h
    exact absurd (h ▸ ends) (not_ends_atoms u _)
  | t :: ts, [], r, r', _, ends, h => by
    rw [atomsOf, atomsOf, List.nil_append, List.append_assoc] at h
    exact absurd (h ▸ ends) (not_ends_atoms t _)
  | t :: ts, u :: us, r, r', ends, ends', h => by
    simp only [atomsOf, List.append_assoc] at h
    obtain ⟨first, rests⟩ := atoms_append_inj t u _ _ h
    obtain ⟨more, same⟩ := atomsOf_append_inj ts us r r' ends ends' rests
    exact ⟨by rw [unplacedAll, unplacedAll, first, more], same⟩

end

mutual

theorem atoms_unplaced : ∀ t : Token, t.unplaced.atoms = t.atoms
  | .ident _ | .punct _ _ _ | .literal _ _ => rfl
  | .group d inner _ => by rw [unplaced, atoms, atoms, atomsOf_unplacedAll inner]

theorem atomsOf_unplacedAll : ∀ ts : List Token, atomsOf (unplacedAll ts) = atomsOf ts
  | [] => rfl
  | t :: ts => by rw [unplacedAll, atomsOf, atomsOf, atoms_unplaced t, atomsOf_unplacedAll ts]

end

theorem sameList_iff {ts us : List Token} :
    sameList ts us = true ↔ unplacedAll ts = unplacedAll us := by
  rw [sameList, beq_iff_eq]
  constructor
  · intro h
    exact (atomsOf_append_inj ts us [] [] (.inl rfl) (.inl rfl) (by rw [h])).1
  · intro h
    rw [← atomsOf_unplacedAll ts, h, atomsOf_unplacedAll]

theorem sameList_singleton {t u : Token} : sameList [t] [u] = true ↔ t.unplaced = u.unplaced := by
  simp [sameList_iff, unplacedAll]

end Token

/-! ## 2. Small nodes -/

/-- A mark at the call site, if it is there. -/
def unplacedMark : Option Span → Option Span := Option.map fun _ => .callSite

/-- A lifetime at the call site. -/
def Lifetime.unplaced (l : Lifetime) : Lifetime := ⟨.callSite, l.name.unplaced⟩

/-- A path without arguments at the call site. -/
def NamePath.unplaced (p : NamePath) : NamePath :=
  ⟨unplacedMark p.leading, p.segments.map Ident.unplaced⟩

/-- An attribute at the call site. -/
def Attribute.unplaced (a : Attribute) : Attribute :=
  ⟨.callSite, a.inner, .callSite, a.path.unplaced, Token.unplacedAll a.tokens⟩

/-- A macro invocation at the call site. -/
def MacroCall.unplaced (m : MacroCall) : MacroCall :=
  ⟨m.path.unplaced, .callSite, m.delim, .callSite, Token.unplacedAll m.tokens⟩

/-- A lifetime's declaration at the call site. -/
def LifetimeParam.unplaced (p : LifetimeParam) : LifetimeParam :=
  ⟨p.attrs.map Attribute.unplaced, p.lifetime.unplaced, p.bounds.map Lifetime.unplaced, p.trailing⟩

/-- A `for<..>` at the call site. -/
def Binder.unplaced (b : Binder) : Binder :=
  ⟨.callSite, b.params.map LifetimeParam.unplaced, b.trailing⟩

theorem isEqv_iff_map {α : Type} {same : α → α → Bool} {f : α → α}
    (h : ∀ a b, same a b = true ↔ f a = f b) (xs ys : List α) :
    xs.isEqv ys same = true ↔ xs.map f = ys.map f := by
  induction xs generalizing ys with
  | nil => cases ys <;> simp
  | cons x xs ih => cases ys <;> simp [List.isEqv, h, ih]

theorem sameOption_iff_map {α : Type} {same : α → α → Bool} {f : α → α}
    (h : ∀ a b, same a b = true ↔ f a = f b) (x y : Option α) :
    sameOption same x y = true ↔ x.map f = y.map f := by
  cases x <;> cases y <;> simp [sameOption, h]

theorem isSome_eq_iff (x y : Option Span) :
    x.isSome = y.isSome ↔ unplacedMark x = unplacedMark y := by
  cases x <;> cases y <;> simp [unplacedMark]

theorem Lifetime.same_iff (a b : Lifetime) : a.same b = true ↔ a.unplaced = b.unplaced := by
  simp [same, unplaced, Ident.same_iff]

theorem NamePath.same_iff (a b : NamePath) : a.same b = true ↔ a.unplaced = b.unplaced := by
  simp [same, unplaced, isSome_eq_iff, isEqv_iff_map Ident.same_iff]

theorem Attribute.same_iff (a b : Attribute) : a.same b = true ↔ a.unplaced = b.unplaced := by
  simp [same, unplaced, NamePath.same_iff, Token.sameList_iff, and_assoc]

theorem MacroCall.same_iff (a b : MacroCall) : a.same b = true ↔ a.unplaced = b.unplaced := by
  simp [same, unplaced, NamePath.same_iff, Token.sameList_iff, and_assoc]

theorem LifetimeParam.same_iff (a b : LifetimeParam) :
    a.same b = true ↔ a.unplaced = b.unplaced := by
  simp [same, unplaced, Lifetime.same_iff, isEqv_iff_map Attribute.same_iff,
    isEqv_iff_map Lifetime.same_iff, and_assoc]

theorem Binder.same_iff (a b : Binder) : a.same b = true ↔ a.unplaced = b.unplaced := by
  simp [same, unplaced, isEqv_iff_map LifetimeParam.same_iff]

/-! ## 3. Trees -/

mutual

/-- A path at the call site. -/
def Path.unplaced : Path → Path
  | .mk leading segments => .mk (unplacedMark leading) (Segment.unplacedAll segments)

/-- Segments at the call site. -/
def Segment.unplacedAll : List Segment → List Segment
  | [] => []
  | s :: rest => s.unplaced :: Segment.unplacedAll rest

/-- A segment at the call site. -/
def Segment.unplaced : Segment → Segment
  | .mk ident args => .mk ident.unplaced args.unplaced

/-- The arguments of a segment at the call site. -/
def PathArgs.unplaced : PathArgs → PathArgs
  | .none => .none
  | .angle colons _ _ args trailing =>
    .angle colons .callSite .callSite (GenericArg.unplacedAll args) trailing
  | .paren _ inputs trailing output =>
    .paren .callSite (Ty.unplacedAll inputs) trailing (Ty.unplacedOutput output)

/-- Generic arguments at the call site. -/
def GenericArg.unplacedAll : List GenericArg → List GenericArg
  | [] => []
  | a :: rest => a.unplaced :: GenericArg.unplacedAll rest

/-- A generic argument at the call site. -/
def GenericArg.unplaced : GenericArg → GenericArg
  | .lifetime l => .lifetime l.unplaced
  | .ty t => .ty t.unplaced
  | .const e => .const e.unplaced
  | .binding name t => .binding name.unplaced t.unplaced
  | .constraint name bounds trailing =>
    .constraint name.unplaced (Bound.unplacedAll bounds) trailing

/-- Bounds at the call site. -/
def Bound.unplacedAll : List Bound → List Bound
  | [] => []
  | b :: rest => b.unplaced :: Bound.unplacedAll rest

/-- A bound at the call site. -/
def Bound.unplaced : Bound → Bound
  | .lifetime l => .lifetime l.unplaced
  | .trait paren modifier binder path =>
    .trait (unplacedMark paren) (unplacedMark modifier) (binder.map Binder.unplaced) path.unplaced

/-- Types at the call site. -/
def Ty.unplacedAll : List Ty → List Ty
  | [] => []
  | t :: rest => t.unplaced :: Ty.unplacedAll rest

/-- A result at the call site, if there is one. -/
def Ty.unplacedOutput : Option Ty → Option Ty
  | some t => some t.unplaced
  | none => none

/-- A type at the call site. -/
def Ty.unplaced : Ty → Ty
  | .path p => .path p.unplaced
  | .paren _ t => .paren .callSite t.unplaced
  | .group _ t => .group .callSite t.unplaced
  | .reference _ lifetime mutable t =>
    .reference .callSite (lifetime.map Lifetime.unplaced) (unplacedMark mutable) t.unplaced
  | .implTrait _ bounds trailing => .implTrait .callSite (Bound.unplacedAll bounds) trailing
  | .traitObject word bounds trailing =>
    .traitObject (unplacedMark word) (Bound.unplacedAll bounds) trailing
  | .tuple _ elems trailing => .tuple .callSite (Ty.unplacedAll elems) trailing
  | .other form parts => .other form (Part.unplacedAll parts)

/-- An expression at the call site. -/
def Expr.unplaced : Expr → Expr
  | .lit attrs token value => .lit (attrs.map Attribute.unplaced) token.unplaced value
  | .paren attrs _ e => .paren (attrs.map Attribute.unplaced) .callSite e.unplaced
  | .group attrs _ e => .group (attrs.map Attribute.unplaced) .callSite e.unplaced
  | .neg attrs _ e => .neg (attrs.map Attribute.unplaced) .callSite e.unplaced
  | .path attrs p => .path (attrs.map Attribute.unplaced) p.unplaced
  | .call attrs m => .call (attrs.map Attribute.unplaced) m.unplaced
  | .other attrs form parts =>
    .other (attrs.map Attribute.unplaced) form (Part.unplacedAll parts)

/-- Parts at the call site. -/
def Part.unplacedAll : List Part → List Part
  | [] => []
  | p :: rest => p.unplaced :: Part.unplacedAll rest

/-- A part at the call site. -/
def Part.unplaced : Part → Part
  | .token t => .token t.unplaced
  | .attr a => .attr a.unplaced
  | .call m => .call m.unplaced
  | .path p => .path p.unplaced
  | .tail segments => .tail (Segment.unplacedAll segments)
  | .bound b => .bound b.unplaced
  | .ty t => .ty t.unplaced
  | .expr e => .expr e.unplaced
  | .group d _ inner => .group d .callSite (Part.unplacedAll inner)

end

/-! ## 4. The comparison

One case for each form of the left tree: the same form on the right leaves the pieces to be
compared, and any other form is different on both sides of the equivalence. -/

mutual

theorem Path.same_iff : ∀ p q : Path, p.same q = true ↔ p.unplaced = q.unplaced
  | .mk l ss, .mk l' ss' => by
    simp [Path.same, Path.unplaced, isSome_eq_iff, Segment.sameAll_iff ss ss']

theorem Segment.sameAll_iff : ∀ ss us : List Segment,
    Segment.sameAll ss us = true ↔ Segment.unplacedAll ss = Segment.unplacedAll us
  | [], us => by cases us <;> simp [Segment.sameAll, Segment.unplacedAll]
  | s :: ss, us => by
    cases us <;> simp [Segment.sameAll, Segment.unplacedAll, Segment.same_iff s,
      Segment.sameAll_iff ss]

theorem Segment.same_iff : ∀ s u : Segment, s.same u = true ↔ s.unplaced = u.unplaced
  | .mk i as, .mk i' as' => by
    simp [Segment.same, Segment.unplaced, Ident.same_iff, PathArgs.same_iff as as']

theorem PathArgs.same_iff : ∀ as bs : PathArgs, as.same bs = true ↔ as.unplaced = bs.unplaced
  | .none, bs => by cases bs <;> simp [PathArgs.same, PathArgs.unplaced]
  | .angle c lt gt args t, bs => by
    cases bs <;> simp [PathArgs.same, PathArgs.unplaced, GenericArg.sameAll_iff args, and_assoc]
  | .paren s ins t out, bs => by
    cases bs <;> simp [PathArgs.same, PathArgs.unplaced, Ty.sameAll_iff ins, Ty.sameOutput_iff out,
      and_assoc]

theorem GenericArg.sameAll_iff : ∀ as bs : List GenericArg,
    GenericArg.sameAll as bs = true ↔ GenericArg.unplacedAll as = GenericArg.unplacedAll bs
  | [], bs => by cases bs <;> simp [GenericArg.sameAll, GenericArg.unplacedAll]
  | a :: as, bs => by
    cases bs <;> simp [GenericArg.sameAll, GenericArg.unplacedAll, GenericArg.same_iff a,
      GenericArg.sameAll_iff as]

theorem GenericArg.same_iff : ∀ a b : GenericArg, a.same b = true ↔ a.unplaced = b.unplaced
  | .lifetime l, b => by
    cases b <;> simp [GenericArg.same, GenericArg.unplaced, Lifetime.same_iff]
  | .ty t, b => by cases b <;> simp [GenericArg.same, GenericArg.unplaced, Ty.same_iff t]
  | .const e, b => by cases b <;> simp [GenericArg.same, GenericArg.unplaced, Expr.same_iff e]
  | .binding i t, b => by
    cases b <;> simp [GenericArg.same, GenericArg.unplaced, Ident.same_iff, Ty.same_iff t]
  | .constraint i bounds t, b => by
    cases b <;> simp [GenericArg.same, GenericArg.unplaced, Ident.same_iff,
      Bound.sameAll_iff bounds, and_assoc]

theorem Bound.sameAll_iff : ∀ as bs : List Bound,
    Bound.sameAll as bs = true ↔ Bound.unplacedAll as = Bound.unplacedAll bs
  | [], bs => by cases bs <;> simp [Bound.sameAll, Bound.unplacedAll]
  | a :: as, bs => by
    cases bs <;> simp [Bound.sameAll, Bound.unplacedAll, Bound.same_iff a, Bound.sameAll_iff as]

theorem Bound.same_iff : ∀ a b : Bound, a.same b = true ↔ a.unplaced = b.unplaced
  | .lifetime l, b => by cases b <;> simp [Bound.same, Bound.unplaced, Lifetime.same_iff]
  | .trait s m binder p, b => by
    cases b <;> simp [Bound.same, Bound.unplaced, isSome_eq_iff,
      sameOption_iff_map Binder.same_iff, Path.same_iff p, and_assoc]

theorem Ty.sameAll_iff : ∀ ts us : List Ty,
    Ty.sameAll ts us = true ↔ Ty.unplacedAll ts = Ty.unplacedAll us
  | [], us => by cases us <;> simp [Ty.sameAll, Ty.unplacedAll]
  | t :: ts, us => by
    cases us <;> simp [Ty.sameAll, Ty.unplacedAll, Ty.same_iff t, Ty.sameAll_iff ts]

theorem Ty.sameOutput_iff : ∀ t u : Option Ty,
    Ty.sameOutput t u = true ↔ Ty.unplacedOutput t = Ty.unplacedOutput u
  | none, u => by cases u <;> simp [Ty.sameOutput, Ty.unplacedOutput]
  | some t, u => by cases u <;> simp [Ty.sameOutput, Ty.unplacedOutput, Ty.same_iff t]

theorem Ty.same_iff : ∀ t u : Ty, t.same u = true ↔ t.unplaced = u.unplaced
  | .path p, u => by cases u <;> simp [Ty.same, Ty.unplaced, Path.same_iff p]
  | .paren _ t, u => by cases u <;> simp [Ty.same, Ty.unplaced, Ty.same_iff t]
  | .group _ t, u => by cases u <;> simp [Ty.same, Ty.unplaced, Ty.same_iff t]
  | .reference _ l m t, u => by
    cases u <;> simp [Ty.same, Ty.unplaced, isSome_eq_iff, sameOption_iff_map Lifetime.same_iff,
      Ty.same_iff t, and_assoc]
  | .implTrait _ bounds _, u => by
    cases u <;> simp [Ty.same, Ty.unplaced, Bound.sameAll_iff bounds]
  | .traitObject _ bounds _, u => by
    cases u <;> simp [Ty.same, Ty.unplaced, isSome_eq_iff, Bound.sameAll_iff bounds, and_assoc]
  | .tuple _ elems _, u => by cases u <;> simp [Ty.same, Ty.unplaced, Ty.sameAll_iff elems]
  | .other _ parts, u => by cases u <;> simp [Ty.same, Ty.unplaced, Part.sameAll_iff parts]

theorem Expr.same_iff : ∀ e f : Expr, e.same f = true ↔ e.unplaced = f.unplaced
  | .lit _ _ _, f => by
    cases f <;> simp [Expr.same, Expr.unplaced, isEqv_iff_map Attribute.same_iff,
      Token.sameList_singleton, and_assoc]
  | .paren _ _ e, f => by
    cases f <;> simp [Expr.same, Expr.unplaced, isEqv_iff_map Attribute.same_iff, Expr.same_iff e]
  | .group _ _ e, f => by
    cases f <;> simp [Expr.same, Expr.unplaced, isEqv_iff_map Attribute.same_iff, Expr.same_iff e]
  | .neg _ _ e, f => by
    cases f <;> simp [Expr.same, Expr.unplaced, isEqv_iff_map Attribute.same_iff, Expr.same_iff e]
  | .path _ p, f => by
    cases f <;> simp [Expr.same, Expr.unplaced, isEqv_iff_map Attribute.same_iff, Path.same_iff p]
  | .call _ _, f => by
    cases f <;> simp [Expr.same, Expr.unplaced, isEqv_iff_map Attribute.same_iff,
      MacroCall.same_iff]
  | .other _ _ parts, f => by
    cases f <;> simp [Expr.same, Expr.unplaced, isEqv_iff_map Attribute.same_iff,
      Part.sameAll_iff parts, and_assoc]

theorem Part.sameAll_iff : ∀ ps qs : List Part,
    Part.sameAll ps qs = true ↔ Part.unplacedAll ps = Part.unplacedAll qs
  | [], qs => by cases qs <;> simp [Part.sameAll, Part.unplacedAll]
  | p :: ps, qs => by
    cases qs <;> simp [Part.sameAll, Part.unplacedAll, Part.same_iff p, Part.sameAll_iff ps]

theorem Part.same_iff : ∀ p q : Part, p.same q = true ↔ p.unplaced = q.unplaced
  | .token _, q => by cases q <;> simp [Part.same, Part.unplaced, Token.sameList_singleton]
  | .attr _, q => by cases q <;> simp [Part.same, Part.unplaced, Attribute.same_iff]
  | .call _, q => by cases q <;> simp [Part.same, Part.unplaced, MacroCall.same_iff]
  | .path p, q => by cases q <;> simp [Part.same, Part.unplaced, Path.same_iff p]
  | .tail segments, q => by
    cases q <;> simp [Part.same, Part.unplaced, Segment.sameAll_iff segments]
  | .bound b, q => by cases q <;> simp [Part.same, Part.unplaced, Bound.same_iff b]
  | .ty t, q => by cases q <;> simp [Part.same, Part.unplaced, Ty.same_iff t]
  | .expr e, q => by cases q <;> simp [Part.same, Part.unplaced, Expr.same_iff e]
  | .group _ _ inner, q => by cases q <;> simp [Part.same, Part.unplaced, Part.sameAll_iff inner]

end

end Graft
