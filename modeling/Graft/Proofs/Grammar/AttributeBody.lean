import Graft.Proofs.Grammar.Runs
import Graft.Expansion

/-!
# The inside of an attribute reads back

An attribute that is given as a text is read twice: once to see that the text is the inside of an
attribute, and once more between the brackets it is written with. The second reading cannot fail.

* `NamePath.Spelled`: tokens that spell a path. `namePath_run_spelled` reads the path from them, and
  `namePath_spelled` says that it is read from no other tokens, invisible groups apart.
* `namePath_run`: a path that was read once is read again from its own tokens.
* `namePath_wellFormed`: whatever is read as a path consists of names that may stand in one.
* `Attribute.ofBody_tokens`: a path and what follows it, between brackets, is the attribute of that
  path.
* **`Attribute.ofBody_of_text`**: the inside that `attributeOfText` answers makes an attribute, and
  the attribute is written with exactly this inside.
* **`parse_attributeBody_iff`**: which tokens are the inside of an attribute.
-/

namespace Graft

open Grammar Graft.Parser

/-! ## 1. Names in paths -/

/-- Whether a name may stand in a path. -/
def Ident.isSegment (i : Ident) : Bool := peekSegment [.ident i]

/-- A path as the grammar reads one: at least one name, and each may stand in a path. -/
structure NamePath.WellFormed (p : NamePath) : Prop where
  nonempty : p.segments ≠ []
  segments : ∀ i ∈ p.segments, i.isSegment = true

/-- Whether a name ahead goes on a path depends on the name only. -/
theorem peekSegment_of_reveal {ts rest : List Token} {i : Ident}
    (h : reveal ts = .ident i :: rest) : peekSegment ts = i.isSegment := by
  simp only [Ident.isSegment, peekSegment, Peek.or, Peek.name, Peek.pathWord, Peek.word, h,
    reveal_ident]

theorem peekSegment_ident {i : Ident} (segment : i.isSegment = true) (rest : List Token) :
    peekSegment (.ident i :: rest) = true :=
  (peekSegment_of_reveal (reveal_ident i rest)).trans segment

/-- The tokens of names with `::` between them. -/
def segmentTokens (names : List Ident) : List Token :=
  joinTokens (operator "::") (names.map fun i => [.ident i])

/-! ## 2. Reading a path from its tokens -/

/-- Tokens that spell names with `::` between them, wherever they stand. -/
inductive SpellNames : List Token → List Ident → Prop
  | last {i : Ident} (segment : i.isSegment = true) : SpellNames [.ident i] [i]
  | more {i : Ident} {ts : List Token} {names : List Ident} (s s' : Span) (sp : Spacing)
      (segment : i.isSegment = true) (rest : SpellNames ts names) :
      SpellNames (.ident i :: .punct ':' .joint s :: .punct ':' sp s' :: ts) (i :: names)

/-- Tokens that spell a path: its names, perhaps with a `::` in front. -/
inductive NamePath.Spelled : List Token → NamePath → Prop
  | plain {ts : List Token} {names : List Ident} (spelled : SpellNames ts names) :
      Spelled ts ⟨none, names⟩
  | rooted {ts : List Token} {names : List Ident} (s s' : Span) (sp : Spacing)
      (spelled : SpellNames ts names) :
      Spelled (.punct ':' .joint s :: .punct ':' sp s' :: ts) ⟨some s, names⟩

theorem spelled_colons (s s' : Span) (sp : Spacing) :
    OpSpelled "::".toList [.punct ':' .joint s, .punct ':' sp s'] [s, s'] :=
  .more ':' s (.last ':' sp s')

theorem colons_run (s s' : Span) (sp : Spacing) (rest : List Token) (stop : Span)
    (left : Option Span) :
    (op "::").run ⟨.punct ':' .joint s :: .punct ':' sp s' :: rest, stop, left⟩ =
      .ok ([.punct ':' .joint s, .punct ':' .alone s'], ⟨rest, stop, left⟩) :=
  op_run_spelled (spelled_colons s s' sp) (by decide) rest stop left

theorem peek_colons (s s' : Span) (sp : Spacing) (rest : List Token) :
    Peek.op "::" (.punct ':' .joint s :: .punct ':' sp s' :: rest) = true :=
  (spelled_colons s s' sp).peek (by decide) rest

theorem peek_colons_nil : Peek.op "::" [] = false := by
  simp [Peek.op, Peek.ofChars, reveal_nil]

theorem peek_colons_group {d : Delimiter} (hd : d ≠ .invisible) (inner : List Token) (s : Span)
    (rest : List Token) : Peek.op "::" (.group d inner s :: rest) = false := by
  simp [Peek.op, Peek.ofChars, reveal_group hd]

theorem peek_colons_ident (i : Ident) (rest : List Token) :
    Peek.op "::" (.ident i :: rest) = false := by
  simp [Peek.op, Peek.ofChars, reveal_ident]

theorem peek_colons_equals (sp : Spacing) (s : Span) (rest : List Token) :
    Peek.op "::" (.punct '=' sp s :: rest) = false := by
  cases sp <;> simp [Peek.op, Peek.ofChars, reveal_punct]

namespace SpellNames

theorem exists_cons {ts : List Token} {names : List Ident} (h : SpellNames ts names) :
    ∃ i more, ts = .ident i :: more := by
  cases h with
  | last segment => exact ⟨_, _, rfl⟩
  | more s s' sp segment rest => exact ⟨_, _, rfl⟩

theorem ne_nil {ts : List Token} {names : List Ident} (h : SpellNames ts names) : names ≠ [] := by
  cases h with
  | last segment => exact List.cons_ne_nil _ _
  | more s s' sp segment rest => exact List.cons_ne_nil _ _

theorem length_le {ts : List Token} {names : List Ident} (h : SpellNames ts names) :
    names.length ≤ Token.weightOf ts := by
  induction h with
  | last segment => exact Nat.le_refl 1
  | more s s' sp segment rest ih =>
    simp only [List.length_cons, Token.weightOf, Token.weight]
    omega

theorem run {ts : List Token} {names : List Ident} (h : SpellNames ts names) {rest : List Token}
    (hrest : Peek.op "::" rest = false) (stop : Span) (left : Option Span) :
    ∀ n, names.length ≤ n → (namePathN n).run ⟨ts ++ rest, stop, left⟩ =
      .ok ((names, false), ⟨rest, stop, left⟩) := by
  induction h with
  | @last i segment =>
    intro n hn
    obtain ⟨n, rfl⟩ : ∃ m, n = m + 1 := ⟨n - 1, by simp only [List.length_cons] at hn; omega⟩
    unfold namePathN
    rw [List.singleton_append, run_peek_pos (peekSegment_ident segment _),
      run_bind_of_ok (anyWord_run _ _ _ _), run_peek_neg hrest]
    rfl
  | @more i ts names s s' sp segment spelled ih =>
    intro n hn
    obtain ⟨n, rfl⟩ : ∃ m, n = m + 1 := ⟨n - 1, by simp only [List.length_cons] at hn; omega⟩
    unfold namePathN
    rw [List.cons_append, List.cons_append, List.cons_append,
      run_peek_pos (peekSegment_ident segment _), run_bind_of_ok (anyWord_run _ _ _ _),
      run_peek_pos (peek_colons _ _ _ _), run_bind_of_ok (colons_run _ _ _ _ _ _),
      run_bind_of_ok (ih n (Nat.le_of_succ_le_succ hn))]
    rfl

end SpellNames

theorem leadingColons_run_none (i : Ident) (more : List Token) (stop : Span)
    (left : Option Span) :
    leadingColons?.run ⟨.ident i :: more, stop, left⟩ =
      .ok (none, ⟨.ident i :: more, stop, left⟩) := by
  have h : (op? "::").run ⟨.ident i :: more, stop, left⟩ =
      .ok (none, ⟨.ident i :: more, stop, left⟩) := by
    unfold op?
    rw [run_peek_neg (peek_colons_ident i more)]
    rfl
  unfold leadingColons?
  rw [run_bind_of_ok h]
  rfl

theorem leadingColons_run_some (s s' : Span) (sp : Spacing) (more : List Token) (stop : Span)
    (left : Option Span) :
    leadingColons?.run ⟨.punct ':' .joint s :: .punct ':' sp s' :: more, stop, left⟩ =
      .ok (some s, ⟨more, stop, left⟩) := by
  have h : (op? "::").run ⟨.punct ':' .joint s :: .punct ':' sp s' :: more, stop, left⟩ =
      .ok (some [.punct ':' .joint s, .punct ':' .alone s'], ⟨more, stop, left⟩) := by
    unfold op?
    rw [run_peek_pos (peek_colons _ _ _ _), run_bind_of_ok (colons_run _ _ _ _ _ _)]
    rfl
  unfold leadingColons?
  rw [run_bind_of_ok h]
  rfl

/-- The names of a path, behind its leading `::` if it has one. -/
theorem SpellNames.run_behind {ts : List Token} {names : List Ident} (h : SpellNames ts names)
    {rest : List Token} (hrest : Peek.op "::" rest = false) (leading : Option Span) (stop : Span)
    (left : Option Span) :
    (do let (names, trailing) ← namePathN (Token.weightOf (← get).rest + 1)
        if names.isEmpty then expectedKind "path"
        else if trailing then expectedKind "path segment"
        else return ⟨leading, names⟩ : Parser NamePath).run ⟨ts ++ rest, stop, left⟩ =
      .ok (⟨leading, names⟩, ⟨rest, stop, left⟩) := by
  have hweight : names.length ≤ Token.weightOf (ts ++ rest) + 1 := by
    have := h.length_le
    rw [Token.weightOf_append]
    omega
  rw [run_bind_of_ok (run_get _), run_bind_of_ok (h.run hrest _ _ _ hweight)]
  simp only [List.isEmpty_iff, h.ne_nil, if_false, Bool.false_eq_true]
  rfl

/-- **A path is read from any tokens that spell it**, whatever follows them, unless another `::`
does. -/
theorem namePath_run_spelled {ts : List Token} {p : NamePath} (h : p.Spelled ts)
    {rest : List Token} (hrest : Peek.op "::" rest = false) (stop : Span) (left : Option Span) :
    namePath.run ⟨ts ++ rest, stop, left⟩ = .ok (p, ⟨rest, stop, left⟩) := by
  unfold namePath
  cases h with
  | plain spelled =>
    obtain ⟨i, more, hts⟩ := spelled.exists_cons
    have hfirst : leadingColons?.run ⟨ts ++ rest, stop, left⟩ =
        .ok (none, ⟨ts ++ rest, stop, left⟩) := by
      rw [hts]
      exact leadingColons_run_none i _ stop left
    rw [run_bind_of_ok hfirst]
    exact spelled.run_behind hrest none stop left
  | rooted s s' sp spelled =>
    rw [List.cons_append, List.cons_append,
      run_bind_of_ok (leadingColons_run_some s s' sp _ stop left)]
    exact spelled.run_behind hrest (some s) stop left

theorem NamePath.WellFormed.spelled {p : NamePath} (hp : p.WellFormed) : p.Spelled p.tokens := by
  have hnames : ∀ names : List Ident, names ≠ [] → (∀ i ∈ names, i.isSegment = true) →
      SpellNames (segmentTokens names) names := by
    intro names hne hseg
    induction names with
    | nil => exact absurd rfl hne
    | cons i names ih =>
      have hi := hseg i List.mem_cons_self
      cases names with
      | nil => exact .last hi
      | cons j names =>
        exact .more _ _ _ hi
          (ih (List.cons_ne_nil _ _) fun k hk => hseg k (List.mem_cons_of_mem _ hk))
  obtain ⟨leading, names⟩ := p
  cases leading with
  | none => exact .plain (hnames names hp.nonempty hp.segments)
  | some s => exact .rooted s s .alone (hnames names hp.nonempty hp.segments)

/-- **A path is read again from its own tokens**, whatever follows them, unless another `::`
does. -/
theorem namePath_run {p : NamePath} (hp : p.WellFormed) {rest : List Token}
    (hrest : Peek.op "::" rest = false) (stop : Span) (left : Option Span) :
    namePath.run ⟨p.tokens ++ rest, stop, left⟩ = .ok (p, ⟨rest, stop, left⟩) :=
  namePath_run_spelled hp.spelled hrest stop left

/-! ## 3. What is read as a path -/

/-- What was read as names: a name that may stand in a path, and behind it no `::`, or one and
further names. -/
theorem namePathN_eq_ok {n : Nat} {c c' : Cursor} {names : List Ident}
    (h : (namePathN (n + 1)).run c = .ok ((names, false), c')) :
    ∃ (i : Ident) (c₁ : Cursor), i.isSegment = true ∧ anyWord.run c = .ok (i, c₁) ∧
      ((names = [i] ∧ c' = c₁ ∧ Peek.op "::" c₁.rest = false) ∨
        ∃ colons c₂ more, (op "::").run c₁ = .ok (colons, c₂) ∧ names = i :: more ∧
          (namePathN n).run c₂ = .ok ((more, false), c')) := by
  unfold namePathN at h
  rw [run_bind_of_ok (run_peek _ _)] at h
  split at h
  · rename_i hpeek
    obtain ⟨i, c₁, hi, h⟩ := run_bind_eq_ok h
    have hseg : i.isSegment = true :=
      (peekSegment_of_reveal (anyWord_eq_ok hi)).symm.trans hpeek
    refine ⟨i, c₁, hseg, hi, ?_⟩
    rw [run_bind_of_ok (run_peek _ _)] at h
    split at h
    · obtain ⟨colons, c₂, hcolons, h⟩ := run_bind_eq_ok h
      obtain ⟨⟨more, last⟩, c₃, hmore, h⟩ := run_bind_eq_ok h
      obtain ⟨hnames, rfl⟩ := run_pure_eq_ok h
      injection hnames with hnames hlast
      subst hlast
      exact .inr ⟨colons, c₂, more, hcolons, hnames, hmore⟩
    · rename_i hstop
      obtain ⟨hnames, rfl⟩ := run_pure_eq_ok h
      injection hnames with hnames _
      exact .inl ⟨hnames, rfl, Bool.eq_false_iff.mpr hstop⟩
  · obtain ⟨hnames, -⟩ := run_pure_eq_ok h
    injection hnames with _ hlast
    nomatch hlast

/-- What was read as a path: perhaps a `::`, and at least one name. -/
theorem namePath_eq_ok {c c' : Cursor} {p : NamePath} (h : namePath.run c = .ok (p, c')) :
    ∃ n c₁, leadingColons?.run c = .ok (p.leading, c₁) ∧ p.segments ≠ [] ∧
      (namePathN n).run c₁ = .ok ((p.segments, false), c') := by
  unfold namePath at h
  obtain ⟨leading, c₁, hleading, h⟩ := run_bind_eq_ok h
  rw [run_bind_of_ok (run_get _)] at h
  obtain ⟨⟨names, trailing⟩, c₂, hnames, h⟩ := run_bind_eq_ok h
  simp only at h
  split at h
  · cases h
  · rename_i hne
    split at h
    · cases h
    · rename_i hlast
      obtain ⟨rfl, rfl⟩ := run_pure_eq_ok h
      rw [Bool.not_eq_true] at hlast
      subst hlast
      exact ⟨_, c₁, hleading, fun e => hne (List.isEmpty_iff.mpr e), hnames⟩

theorem namePathN_segments {n : Nat} {c c' : Cursor} {names : List Ident}
    (h : (namePathN n).run c = .ok ((names, false), c')) : ∀ i ∈ names, i.isSegment = true := by
  induction n generalizing c names with
  | zero => cases h
  | succ n ih =>
    obtain ⟨i, c₁, hseg, -, ⟨rfl, -⟩ | ⟨_, c₂, more, -, rfl, hmore⟩⟩ := namePathN_eq_ok h
    · exact List.forall_mem_singleton.mpr hseg
    · exact List.forall_mem_cons.mpr ⟨hseg, ih hmore⟩

/-- **Whatever is read as a path is one.** -/
theorem namePath_wellFormed {c c' : Cursor} {p : NamePath} (h : namePath.run c = .ok (p, c')) :
    p.WellFormed := by
  obtain ⟨n, c₁, -, hne, hnames⟩ := namePath_eq_ok h
  exact ⟨hne, namePathN_segments hnames⟩

theorem colons_eq_ok {c c' : Cursor} {ts : List Token} (hc : Visible c.rest)
    (h : (op "::").run c = .ok (ts, c')) :
    ∃ s s' sp, c.rest = .punct ':' .joint s :: .punct ':' sp s' :: c'.rest ∧
      ts = [.punct ':' .joint s, .punct ':' .alone s'] := by
  obtain ⟨front, spans, spelled, hrest, rfl⟩ := op_spelled (by decide) hc h
  obtain - | ⟨ch, s, ⟨ch', sp, s'⟩ | ⟨ch', s', rest⟩⟩ := spelled
  · exact ⟨s, s', sp, hrest, rfl⟩
  · exact absurd rfl rest.ne_nil

theorem namePathN_spelled {n : Nat} {c c' : Cursor} {names : List Ident} (hc : Visible c.rest)
    (h : (namePathN n).run c = .ok ((names, false), c')) :
    ∃ ts, c.rest = ts ++ c'.rest ∧ SpellNames ts names := by
  induction n generalizing c names with
  | zero => cases h
  | succ n ih =>
    obtain ⟨i, c₁, hseg, hi, hnames⟩ := namePathN_eq_ok h
    have hfirst : c.rest = .ident i :: c₁.rest := hc.reveal_eq.symm.trans (anyWord_eq_ok hi)
    rw [hfirst] at hc ⊢
    obtain ⟨rfl, rfl, -⟩ | ⟨_, c₂, more, hcolons, rfl, hmore⟩ := hnames
    · exact ⟨[.ident i], rfl, .last hseg⟩
    · obtain ⟨s, s', sp, hrest, -⟩ := colons_eq_ok hc.tail hcolons
      rw [hrest] at hc
      obtain ⟨ts, hts, spelled⟩ := ih hc.tail.tail.tail hmore
      exact ⟨_, by rw [hrest, hts]; rfl, .more s s' sp hseg spelled⟩

theorem leadingColons_eq_ok {c c' : Cursor} {leading : Option Span} (hc : Visible c.rest)
    (h : leadingColons?.run c = .ok (leading, c')) :
    (leading = none ∧ c' = c) ∨ ∃ s s' sp,
      leading = some s ∧ c.rest = .punct ':' .joint s :: .punct ':' sp s' :: c'.rest := by
  unfold leadingColons? at h
  obtain ⟨found, c₁, hfound, hanswer⟩ := run_bind_eq_ok h
  unfold op? at hfound
  rw [run_bind_of_ok (run_peek _ _)] at hfound
  split at hfound
  · obtain ⟨ts, c₂, hcolons, hfound⟩ := run_bind_eq_ok hfound
    obtain ⟨rfl, rfl⟩ := run_pure_eq_ok hfound
    obtain ⟨s, s', sp, hrest, rfl⟩ := colons_eq_ok hc hcolons
    obtain ⟨rfl, rfl⟩ := run_pure_eq_ok hanswer
    exact .inr ⟨s, s', sp, rfl, hrest⟩
  · obtain ⟨rfl, rfl⟩ := run_pure_eq_ok hfound
    obtain ⟨rfl, rfl⟩ := run_pure_eq_ok hanswer
    exact .inl ⟨rfl, rfl⟩

/-- **What is read as a path is spelled by the tokens that were taken**, where no invisible group
hides any. -/
theorem namePath_spelled {c c' : Cursor} {p : NamePath} (hc : Visible c.rest)
    (h : namePath.run c = .ok (p, c')) : ∃ ts, c.rest = ts ++ c'.rest ∧ p.Spelled ts := by
  obtain ⟨n, c₁, hleading, -, hnames⟩ := namePath_eq_ok h
  obtain ⟨leading, names⟩ := p
  rcases leadingColons_eq_ok hc hleading with ⟨rfl, rfl⟩ | ⟨s, s', sp, rfl, hrest⟩
  · obtain ⟨ts, hts, spelled⟩ := namePathN_spelled hc hnames
    exact ⟨ts, hts, .plain spelled⟩
  · rw [hrest] at hc
    obtain ⟨ts, hts, spelled⟩ := namePathN_spelled hc.tail.tail hnames
    exact ⟨_, by rw [hrest, hts]; rfl, .rooted s s' sp spelled⟩

/-! ## 4. Attributes -/

/-- An attribute as the grammar reads one in front of something: what follows its path does not go
on the path. -/
structure Attribute.Readable (a : Attribute) : Prop where
  outer : a.inner = false
  path : a.path.WellFormed
  rest : Peek.op "::" a.tokens = false

theorem Attribute.Readable.render_eq {a : Attribute} (ha : a.Readable) :
    a.render =
      [.punct '#' .alone a.pound, .group .bracket (a.path.tokens ++ a.tokens) a.bracket] := by
  unfold Attribute.render
  rw [ha.outer]
  rfl

theorem pound_run (s : Span) (rest : List Token) (stop : Span) (left : Option Span) :
    (mark "#").run ⟨.punct '#' .alone s :: rest, stop, left⟩ = .ok (s, ⟨rest, stop, left⟩) := by
  have h : (op "#").run ⟨operatorAt s "#".toList ++ rest, stop, left⟩ =
      .ok (operatorAt s "#".toList, ⟨rest, stop, left⟩) :=
    op_run s rest stop left (by decide) (by decide)
  unfold mark
  exact (run_bind_of_ok h).trans rfl

/-- **An attribute is read again from its own tokens.** -/
theorem outerAttribute_run {a : Attribute} (ha : a.Readable) (rest : List Token) (stop : Span)
    (left : Option Span) :
    outerAttribute.run ⟨a.render ++ rest, stop, left⟩ = .ok (a, ⟨rest, stop, left⟩) := by
  have hinner : (do let path ← namePath; return (path, ← everything) :
      Parser (NamePath × List Token)).run ⟨a.path.tokens ++ a.tokens, a.bracket.last, left⟩ =
      .ok ((a.path, a.tokens), ⟨[], a.bracket.last, left⟩) := by
    rw [run_bind_of_ok (namePath_run ha.path ha.rest _ _), run_bind_of_ok (run_everything _)]
    rfl
  rw [ha.render_eq]
  unfold outerAttribute
  rw [List.cons_append, List.singleton_append, run_bind_of_ok (pound_run _ _ _ _),
    run_bind_of_ok (within_run (by decide) hinner _ _)]
  simp only [firstLeft, reveal_nil, Option.or_none]
  rw [← ha.outer]
  rfl

/-- **A path and what follows it, between brackets, is the attribute of that path.** -/
theorem Attribute.ofBody_tokens {p : NamePath} (hp : p.WellFormed) {rest : List Token}
    (hrest : Peek.op "::" rest = false) :
    Attribute.ofBody (p.tokens ++ rest) = .ok ⟨.callSite, false, .callSite, p, rest⟩ := by
  have readable : (Attribute.mk .callSite false .callSite p rest).Readable := ⟨rfl, hp, hrest⟩
  have hread : outerAttribute.run
      ⟨operator "#" ++ [brackets (p.tokens ++ rest)], .callSite, none⟩ =
      .ok (⟨.callSite, false, .callSite, p, rest⟩, ⟨[], .callSite, none⟩) :=
    outerAttribute_run readable [] .callSite none
  unfold Attribute.ofBody Graft.parse
  rw [hread]
  simp only [firstLeft, reveal_nil, Option.or]

/-- The end of an attribute's inside, behind its path and `rest`. -/
theorem attributeBody_end {p : NamePath} {rest body : List Token} {c c' : Cursor}
    (h : (do if ← peek Peek.atEnd then return p.tokens ++ rest
             else fail (.rule (spanAhead (← get)) "unexpected tokens after the attribute") :
      Parser (List Token)).run c = .ok (body, c')) : body = p.tokens ++ rest ∧ c.rest = [] := by
  rw [run_bind_of_ok (run_peek _ _)] at h
  split at h
  · rename_i hend
    exact ⟨(run_pure_eq_ok h).1, List.isEmpty_iff.mp hend⟩
  · cases h

/-- What was read as the inside of an attribute: a path, and behind it nothing, a `=` with any
tokens, or one group. -/
theorem attributeBody_eq_ok {c c' : Cursor} {body : List Token}
    (h : attributeBody.run c = .ok (body, c')) :
    ∃ (p : NamePath) (c₁ : Cursor), namePath.run c = .ok (p, c₁) ∧
      ((c₁.rest = [] ∧ body = p.tokens) ∨
        (∃ eq c₂, (op "=").run c₁ = .ok (eq, c₂) ∧ body = p.tokens ++ (eq ++ c₂.rest)) ∨
        ∃ d inner s, reveal c₁.rest = [.group d inner s] ∧
          body = p.tokens ++ [.group d inner s]) := by
  unfold attributeBody at h
  obtain ⟨p, c₁, hp, h⟩ := run_bind_eq_ok h
  refine ⟨p, c₁, hp, ?_⟩
  rw [run_bind_of_ok (run_peek _ _)] at h
  split at h
  · rename_i hend
    obtain ⟨rest, c₂, hrest, h⟩ := run_bind_eq_ok h
    obtain ⟨rfl, -⟩ := run_pure_eq_ok hrest
    refine .inl ⟨List.isEmpty_iff.mp hend, ?_⟩
    rw [(attributeBody_end h).1, List.append_nil]
  · rw [run_bind_of_ok (run_peek _ _)] at h
    split at h
    · obtain ⟨eq, c₂, heq, h⟩ := run_bind_eq_ok h
      rw [run_bind_of_ok (run_everything _)] at h
      obtain ⟨rest, c₃, hrest, h⟩ := run_bind_eq_ok h
      obtain ⟨rfl, -⟩ := run_pure_eq_ok hrest
      exact .inr (.inl ⟨eq, c₂, heq, (attributeBody_end h).1⟩)
    · rw [run_bind_of_ok (run_get _)] at h
      split at h
      · rename_i d inner s after hgroup
        rw [run_bind_of_ok (run_advance _ _)] at h
        obtain ⟨rest, c₃, hrest, h⟩ := run_bind_eq_ok h
        obtain ⟨rfl, rfl⟩ := run_pure_eq_ok hrest
        obtain ⟨hbody, hend⟩ := attributeBody_end h
        exact .inr (.inr ⟨d, inner, s, by rw [hgroup, show after = [] from hend], hbody⟩)
      · cases h

/-- **The inside of an attribute is a path and something that does not go on it.** -/
theorem attributeBody_tokens {c c' : Cursor} {body : List Token}
    (h : attributeBody.run c = .ok (body, c')) :
    ∃ (p : NamePath) (rest : List Token), body = p.tokens ++ rest ∧ p.WellFormed ∧
      Peek.op "::" rest = false := by
  obtain ⟨p, c₁, hp, hbody⟩ := attributeBody_eq_ok h
  have hwf := namePath_wellFormed hp
  rcases hbody with ⟨-, rfl⟩ | ⟨eq, c₂, heq, rfl⟩ | ⟨d, inner, s, hgroup, rfl⟩
  · exact ⟨p, [], (List.append_nil _).symm, hwf, peek_colons_nil⟩
  · obtain ⟨s, rfl⟩ : ∃ s, eq = [.punct '=' .alone s] := op_single_eq_ok rfl heq
    exact ⟨p, _, rfl, hwf, peek_colons_equals _ _ _⟩
  · exact ⟨p, _, rfl, hwf, peek_colons_group (reveal_not_invisible hgroup) _ _ _⟩

/-- **The inside of an attribute that a text spells makes an attribute**, written with exactly this
inside. -/
theorem Attribute.ofBody_of_text {text : String} {inside : List Token}
    (h : attributeOfText text = .ok inside) :
    ∃ a, Attribute.ofBody inside = .ok a ∧ a.inner = false ∧
      a.render = operator "#" ++ [brackets inside] := by
  unfold attributeOfText at h
  split at h
  · cases h
  · split at h
    · rename_i body hparse
      injection h with h
      subst h
      obtain ⟨c, hrun, -⟩ := parse_eq_ok hparse
      obtain ⟨p, rest, rfl, hwf, hrest⟩ := attributeBody_tokens hrun
      exact ⟨_, Attribute.ofBody_tokens hwf hrest, rfl, rfl⟩
    · cases h

/-! ## 5. Which tokens are the inside of an attribute -/

/-- Tokens that spell a path and, behind it, nothing, one group, or a `=` and any tokens. The `=` is
written alone. -/
inductive AttributeSpelled : List Token → NamePath → List Token → Prop
  | bare {ts : List Token} {p : NamePath} (path : p.Spelled ts) : AttributeSpelled ts p []
  | group {ts : List Token} {p : NamePath} {d : Delimiter} (path : p.Spelled ts)
      (visible : d ≠ .invisible) (inner : List Token) (s : Span) :
      AttributeSpelled (ts ++ [.group d inner s]) p [.group d inner s]
  | value {ts : List Token} {p : NamePath} (path : p.Spelled ts) (sp : Spacing) (s : Span)
      (more : List Token) :
      AttributeSpelled (ts ++ .punct '=' sp s :: more) p (.punct '=' .alone s :: more)

theorem NamePath.Spelled.wellFormed {ts : List Token} {p : NamePath} (h : p.Spelled ts) :
    p.WellFormed :=
  namePath_wellFormed (namePath_run_spelled h peek_colons_nil .callSite none)

/-- **What was spelled between brackets is the attribute of the path, with the rest as it is.** -/
theorem AttributeSpelled.ofBody {ts rest : List Token} {p : NamePath}
    (h : AttributeSpelled ts p rest) :
    Attribute.ofBody (p.tokens ++ rest) = .ok ⟨.callSite, false, .callSite, p, rest⟩ := by
  cases h with
  | bare path => exact Attribute.ofBody_tokens path.wellFormed peek_colons_nil
  | group path visible inner s =>
    exact Attribute.ofBody_tokens path.wellFormed (peek_colons_group visible inner s [])
  | value path sp s more =>
    exact Attribute.ofBody_tokens path.wellFormed (peek_colons_equals .alone s more)

theorem equals_run (sp : Spacing) (s : Span) (rest : List Token) (stop : Span)
    (left : Option Span) :
    (op "=").run ⟨.punct '=' sp s :: rest, stop, left⟩ =
      .ok ([.punct '=' .alone s], ⟨rest, stop, left⟩) :=
  have spelled : OpSpelled "=".toList [.punct '=' sp s] [s] := .last '=' sp s
  op_run_spelled spelled (by decide) rest stop left

theorem equals_eq_ok {c c' : Cursor} {ts : List Token} (hc : Visible c.rest)
    (h : (op "=").run c = .ok (ts, c')) :
    ∃ s sp, c.rest = .punct '=' sp s :: c'.rest ∧ ts = [.punct '=' .alone s] := by
  obtain ⟨front, spans, spelled, hrest, rfl⟩ := op_spelled (by decide) hc h
  obtain ⟨ch, sp, s⟩ | ⟨ch, s, rest⟩ := spelled
  · exact ⟨s, sp, hrest, rfl⟩
  · exact absurd rfl rest.ne_nil

theorem AttributeSpelled.run {ts rest : List Token} {p : NamePath}
    (h : AttributeSpelled ts p rest) (stop : Span) (left : Option Span) :
    attributeBody.run ⟨ts, stop, left⟩ = .ok (p.tokens ++ rest, ⟨[], stop, left⟩) := by
  unfold attributeBody
  cases h with
  | bare path =>
    have hpath := namePath_run_spelled path peek_colons_nil stop left
    rw [List.append_nil] at hpath
    rw [run_bind_of_ok hpath]
    rfl
  | @group ts _ d path visible inner s =>
    have hcolons := peek_colons_group visible inner s []
    have hequals : Peek.op "=" [.group d inner s] = false := by
      simp [Peek.op, Peek.ofChars, reveal_group visible]
    rw [run_bind_of_ok (namePath_run_spelled path hcolons stop left),
      run_bind_of_ok (run_peek _ _), run_bind_of_ok (run_peek _ _)]
    dsimp only
    rw [if_neg (by exact Bool.false_ne_true), if_neg (Bool.eq_false_iff.mp hequals),
      run_bind_of_ok (run_get _)]
    simp only [reveal_group visible]
    rfl
  | value path sp s more =>
    have hcolons := peek_colons_equals sp s more
    have hequals : Peek.op "=" (.punct '=' sp s :: more) = true := by
      simp [Peek.op, Peek.ofChars, reveal_punct]
    rw [run_bind_of_ok (namePath_run_spelled path hcolons stop left),
      run_bind_of_ok (run_peek _ _), run_bind_of_ok (run_peek _ _)]
    dsimp only
    rw [if_neg (by exact Bool.false_ne_true), if_pos hequals,
      run_bind_of_ok (equals_run sp s more stop left)]
    rfl

/-- What is read as the inside of an attribute is spelled so, where no group is invisible. -/
theorem attributeBody_spelled {c c' : Cursor} {body : List Token} (hc : Visible c.rest)
    (h : attributeBody.run c = .ok (body, c')) :
    ∃ p rest, AttributeSpelled c.rest p rest ∧ body = p.tokens ++ rest := by
  obtain ⟨p, c₁, hp, hbody⟩ := attributeBody_eq_ok h
  obtain ⟨ts, hts, path⟩ := namePath_spelled hc hp
  have hc₁ : Visible c₁.rest := fun t ht => hc t (by rw [hts]; exact List.mem_append_right ts ht)
  rcases hbody with ⟨hend, rfl⟩ | ⟨eq, c₂, heq, rfl⟩ | ⟨d, inner, s, hgroup, rfl⟩
  · rw [hts, hend, List.append_nil]
    exact ⟨p, [], .bare path, (List.append_nil _).symm⟩
  · obtain ⟨s, sp, hrest, rfl⟩ := equals_eq_ok hc₁ heq
    rw [hts, hrest]
    exact ⟨p, _, .value path sp s c₂.rest, rfl⟩
  · have hvisible := reveal_not_invisible hgroup
    rw [hc₁.reveal_eq] at hgroup
    rw [hts, hgroup]
    exact ⟨p, _, .group path hvisible inner s, rfl⟩

/-- **Which tokens are the inside of an attribute**: those that spell a path and, behind it,
nothing, one group, or a `=` and any tokens. -/
theorem parse_attributeBody_iff {ts body : List Token} (hts : Visible ts) :
    Graft.parse (fun _ => attributeBody) ts = .ok body ↔
      ∃ p rest, AttributeSpelled ts p rest ∧ body = p.tokens ++ rest := by
  constructor
  · intro h
    obtain ⟨c, hrun, -⟩ := parse_eq_ok h
    exact attributeBody_spelled hts hrun
  · rintro ⟨p, rest, spelled, rfl⟩
    unfold Graft.parse
    rw [spelled.run]
    simp only [firstLeft, reveal_nil, Option.or]

end Graft
