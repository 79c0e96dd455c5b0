import Mathlib.Logic.Function.Iterate
import Graft.LiteralClass

/-!
# Which expressions spell a value

How a stored property is read and what type it has follow from the spelling of its default. Here it
is said, without the recursion that looks for it, which class a spelling has:

* `Expr.Nested`: an expression under minus signs, parentheses and invisible groups in any order,
  with the number of the signs;
* `Expr.IsLiteral`: the expressions that are literals;
* `Expr.Spells`: the expressions that spell a value, with its class. A number may stand under any
  number of signs, everything else under none.

A layer around an expression does one thing to its class: a sign negates it, and the other layers
leave it alone (`Nested.literalClass_eq`). So what is spelled is found (`Spells.literalClass_eq`).
The converse goes by induction on the layers, with one step for each kind (`Spells.paren`,
`Spells.group`, `Spells.neg`). `literal_class_exact` is the main statement.
-/

namespace Graft

/-! ## 1. Paths without their last segments -/

namespace Path

/-- A path with one more segment. -/
def extended (q : Path) (last : Segment) : Path := .mk q.leading (q.segments ++ [last])

theorem qualifier_extended (q : Path) (last : Segment) : (q.extended last).qualifier = q := by
  obtain ⟨leading, segments⟩ := q
  exact congrArg (mk leading) List.dropLast_concat

theorem exists_eq_extended {p : Path} (nonempty : p.segments ≠ []) :
    ∃ (q : Path) (last : Segment), p = q.extended last := by
  obtain ⟨leading, segments⟩ := p
  refine ⟨.mk leading segments.dropLast, segments.getLast nonempty, ?_⟩
  exact congrArg (mk leading) (List.dropLast_concat_getLast nonempty).symm

theorem two_le_length_extended {q : Path} {last : Segment} :
    2 ≤ (q.extended last).segments.length ↔ q.segments ≠ [] := by
  have length : (q.extended last).segments.length = q.segments.length + 1 :=
    List.length_append
  rw [length, ← List.length_pos_iff]
  omega

end Path

/-! ## 2. Layers around an expression -/

namespace Expr

/-- An expression under this number of minus signs, with parentheses and invisible groups anywhere
around and between them. -/
inductive Nested (inner : Expr) : Nat → Expr → Prop
  | bare : Nested inner 0 inner
  | paren (attrs : List Attribute) (s : Span) {n : Nat} {e : Expr} (h : Nested inner n e) :
      Nested inner n (.paren attrs s e)
  | group (attrs : List Attribute) (s : Span) {n : Nat} {e : Expr} (h : Nested inner n e) :
      Nested inner n (.group attrs s e)
  | neg (attrs : List Attribute) (minus : Span) {n : Nat} {e : Expr} (h : Nested inner n e) :
      Nested inner (n + 1) (.neg attrs minus e)

/-- **Each sign negates the class, and nothing else around an expression changes it.** -/
theorem Nested.literalClass_eq {inner e : Expr} {n : Nat} (h : inner.Nested n e) :
    e.literalClass = LiteralClass.negated^[n] inner.literalClass := by
  induction h with
  | bare => rfl
  | paren attrs s h ih => rw [literalClass, ih]
  | group attrs s h ih => rw [literalClass, ih]
  | neg attrs minus h ih => rw [literalClass, ih, Function.iterate_succ_apply']

/-! ## 3. Spellings of a value -/

/-- An expression that is a literal: one token, or a number that has its sign in it, as a constant
between the angle brackets of a type may have. -/
inductive IsLiteral : Expr → Lit → Prop
  | plain (attrs : List Attribute) (token : Token) (value : Lit) :
      IsLiteral (.lit attrs token value) value
  | signed (attrs : List Attribute) (minus : Part) {text : String} (s : Span) {value : Lit}
      (number : Lit.number? text.toList = some value) :
      IsLiteral (.other attrs .negativeLiteral [minus, .token (.literal text s)]) value

/-- An expression that spells a value of a class. -/
inductive Spells (e : Expr) : LiteralClass → Prop
  | int {n : Nat} {l : Expr} {digits suffix : String} (literal : l.IsLiteral (.int digits suffix))
      (nested : l.Nested n e) : Spells e .int
  | float {n : Nat} {l : Expr} {digits suffix : String}
      (literal : l.IsLiteral (.float digits suffix)) (nested : l.Nested n e) : Spells e .float
  | bool {l : Expr} {b : Bool} (literal : l.IsLiteral (.bool b)) (nested : l.Nested 0 e) :
      Spells e .bool
  | string {l : Expr} {text : String} (literal : l.IsLiteral (.str text)) (nested : l.Nested 0 e) :
      Spells e .string
  /-- A path of two segments or more is a value of the type that it names without the last. -/
  | named {attrs : List Attribute} {q : Path} {last : Segment} (qualified : q.segments ≠ [])
      (nested : (Expr.path attrs (q.extended last)).Nested 0 e) : Spells e (.named q)

theorem IsLiteral.literalClass_eq {l : Expr} {v : Lit} (h : l.IsLiteral v) :
    l.literalClass = v.literalClass := by
  cases h with
  | plain => rfl
  | signed attrs minus s number => rw [literalClass, ExprForm.literalClass, number, Option.elim]

/-- A path is taken for a value of the type that is left without its last segment. -/
theorem literalClass_path {attrs : List Attribute} {p q : Path} :
    (Expr.path attrs p).literalClass = .named q ↔
      q.segments ≠ [] ∧ ∃ last, p = q.extended last := by
  constructor
  · intro h
    unfold literalClass at h
    split at h
    · rename_i two
      have nonempty : p.segments ≠ [] := List.length_pos_iff.mp (by omega)
      obtain ⟨front, last, rfl⟩ := Path.exists_eq_extended nonempty
      injection h with h
      rw [Path.qualifier_extended] at h
      subst h
      exact ⟨Path.two_le_length_extended.mp two, last, rfl⟩
    · nomatch h
  · rintro ⟨qualified, last, rfl⟩
    rw [literalClass, if_pos (Path.two_le_length_extended.mpr qualified), Path.qualifier_extended]

namespace Spells

variable {e : Expr} {c : LiteralClass}

/-- **What is spelled is found.** Numbers are the classes that a sign leaves as they are. -/
theorem literalClass_eq (h : e.Spells c) : e.literalClass = c := by
  cases h with
  | @int n _ _ _ literal nested =>
    rw [nested.literalClass_eq, literal.literalClass_eq]
    exact Function.iterate_fixed rfl n
  | @float n _ _ _ literal nested =>
    rw [nested.literalClass_eq, literal.literalClass_eq]
    exact Function.iterate_fixed rfl n
  | bool literal nested => exact nested.literalClass_eq.trans literal.literalClass_eq
  | string literal nested => exact nested.literalClass_eq.trans literal.literalClass_eq
  | named qualified nested =>
    exact nested.literalClass_eq.trans (literalClass_path.mpr ⟨qualified, _, rfl⟩)

theorem recognized (h : e.Spells c) : c ≠ .unrecognized := by
  cases h <;> exact fun h => nomatch h

/-- A layer that keeps the signs keeps what is spelled. -/
theorem within {f : Expr} (h : e.Spells c)
    (layer : ∀ {inner : Expr} {n : Nat}, inner.Nested n e → inner.Nested n f) : f.Spells c := by
  cases h with
  | int literal nested => exact .int literal (layer nested)
  | float literal nested => exact .float literal (layer nested)
  | bool literal nested => exact .bool literal (layer nested)
  | string literal nested => exact .string literal (layer nested)
  | named qualified nested => exact .named qualified (layer nested)

theorem paren (attrs : List Attribute) (s : Span) (h : e.Spells c) :
    (Expr.paren attrs s e).Spells c := h.within (.paren attrs s)

theorem group (attrs : List Attribute) (s : Span) (h : e.Spells c) :
    (Expr.group attrs s e).Spells c := h.within (.group attrs s)

/-- A sign keeps a number, and makes anything else no value. -/
theorem neg (attrs : List Attribute) (minus : Span) (h : e.Spells c)
    (number : c.negated ≠ .unrecognized) : (Expr.neg attrs minus e).Spells c.negated := by
  cases h with
  | int literal nested => exact .int literal (.neg attrs minus nested)
  | float literal nested => exact .float literal (.neg attrs minus nested)
  | bool | string | named => exact absurd rfl number

end Spells

/-- A literal that has a class spells a value of it. -/
theorem IsLiteral.spells {l : Expr} {v : Lit} (h : l.IsLiteral v)
    (known : v.literalClass ≠ .unrecognized) : l.Spells v.literalClass := by
  cases v with
  | int digits suffix => exact .int h .bare
  | float digits suffix => exact .float h .bare
  | bool b => exact .bool h .bare
  | str text => exact .string h .bare
  | bytes | byte | char => exact absurd rfl known

/-- A form that has a class is a number with its sign in it. -/
theorem isLiteral_of_form {attrs : List Attribute} {form : ExprForm} {parts : List Part}
    (known : form.literalClass parts ≠ .unrecognized) :
    ∃ v, (Expr.other attrs form parts).IsLiteral v ∧ form.literalClass parts = v.literalClass := by
  revert known
  fun_cases ExprForm.literalClass form parts with
  | case1 minus text s =>
    intro known
    cases number : Lit.number? text.toList with
    | none =>
      rw [number] at known
      exact absurd rfl known
    | some v => exact ⟨v, .signed attrs minus s number, rfl⟩
  | case2 => exact absurd rfl

/-- **What is found is spelled.** -/
theorem spells_literalClass (e : Expr) (known : e.literalClass ≠ .unrecognized) :
    e.Spells e.literalClass := by
  -- The recursion follows the layers; inside them is a literal, a path, a call or a form.
  induction e using literalClass.induct with
  | case1 attrs token v => exact (IsLiteral.plain attrs token v).spells known
  | case2 attrs minus e ih =>
    refine (ih fun unknown => known ?_).neg attrs minus known
    rw [literalClass, unknown]
    rfl
  | case3 attrs s e ih => exact (ih known).group attrs s
  | case4 attrs s e ih => exact (ih known).paren attrs s
  | case5 attrs p two =>
    have found : (Expr.path attrs p).literalClass = .named p.qualifier := by
      rw [literalClass, if_pos two]
    obtain ⟨qualified, last, whole⟩ := literalClass_path.mp found
    -- `whole` has the path on both sides, so it cannot be put in its place.
    have nested : (Expr.path attrs (p.qualifier.extended last)).Nested 0 (.path attrs p) := by
      rw [← whole]
      exact .bare
    rw [found]
    exact .named qualified nested
  | case6 attrs p short =>
    rw [literalClass, if_neg short] at known
    exact absurd rfl known
  | case7 attrs m => exact absurd rfl known
  | case8 attrs form parts =>
    obtain ⟨v, literal, found⟩ := isLiteral_of_form known
    rw [literalClass, found] at known ⊢
    exact literal.spells known

end Expr

/-! ## 4. Exactness -/

/-- **The class of an expression is exact.** For every expression, a class is found exactly if the
expression spells a value of it, and none is found exactly if it spells no value. Parentheses and
invisible groups make no difference; and the type that is found for a path is the path without its
last segment. -/
theorem literal_class_exact (e : Expr) :
    (∀ c, e.Spells c ↔ e.literalClass = c ∧ c ≠ .unrecognized) ∧
    (e.literalClass = .unrecognized ↔ ∀ c, ¬ e.Spells c) ∧
    (∀ inner : Expr, inner.Nested 0 e → e.literalClass = inner.literalClass) ∧
    (∀ attrs p q, (Expr.path attrs p).Nested 0 e → e.literalClass = .named q →
      ∃ last, p = q.extended last) := by
  refine ⟨fun c => ⟨fun spelled => ⟨spelled.literalClass_eq, spelled.recognized⟩, ?_⟩, ⟨?_, ?_⟩,
    fun inner nested => nested.literalClass_eq, ?_⟩
  · rintro ⟨rfl, known⟩
    exact e.spells_literalClass known
  · intro unknown c spelled
    exact spelled.recognized (spelled.literalClass_eq.symm.trans unknown)
  · intro unspelled
    by_contra known
    exact unspelled _ (e.spells_literalClass known)
  · intro attrs p q nested found
    rw [nested.literalClass_eq] at found
    exact (Expr.literalClass_path.mp found).2

/-- The path `::settings::Theme::<u8>`. -/
def themePath : Path :=
  .mk (some .callSite) [.mk (.new "settings") .none, .mk (.new "Theme")
    (.angle true .callSite .callSite [.ty (.path (.mk none [.mk (.new "u8") .none]))] false)]

/-- The path `::settings::Theme::<u8>::Dark`. -/
def darkPath : Path := themePath.extended (.mk (.new "Dark") .none)

/-- That path in an invisible group in parentheses. -/
def darkTheme : Expr := .paren [] .callSite (.group [] .callSite (.path [] darkPath))

/-- A value of a qualified type is found behind its parentheses, and is none under a sign. -/
theorem darkTheme_classified :
    darkTheme.literalClass = .named themePath ∧
    darkTheme.literalClass = (Expr.path [] darkPath).literalClass ∧
    (∃ last, darkPath = themePath.extended last) ∧
    ∀ c, ¬ (Expr.neg [] .callSite darkTheme).Spells c := by
  have nested : (Expr.path [] darkPath).Nested 0 darkTheme := .paren _ _ (.group _ _ .bare)
  have spelled : darkTheme.Spells (.named themePath) := .named (List.cons_ne_nil _ _) nested
  obtain ⟨found, -, unwrapped, whole⟩ := literal_class_exact darkTheme
  have named : darkTheme.literalClass = .named themePath := ((found _).mp spelled).1
  obtain ⟨-, unrecognized, -⟩ := literal_class_exact (.neg [] .callSite darkTheme)
  exact ⟨named, unwrapped _ nested, whole _ _ _ nested named, unrecognized.mp rfl⟩

end Graft
