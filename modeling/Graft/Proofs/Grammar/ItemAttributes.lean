import Graft.Proofs.Grammar.AttributeBody
import Graft.Proofs.Grammar.ItemRules
import Graft.Proofs.Tree.TypeShapes

/-!
# Attributes of items are read back

A struct or enum that is written and read again keeps its attributes and its kind, whatever becomes
of the rest.

* `Attribute.Readable` holds of attributes that were read (`Grammar.outerAttributes_readable`,
  `Item.parse_readable`), and such attributes are read again from their own tokens
  (`Grammar.outerAttributes_run`).
* `Grammar.visibility_behind`: behind a visibility as it is written, the keyword is ahead again, or
  a parenthesis with which no item begins.
* `Grammar.item_reread`: so the rule for that keyword reads what follows, and it reads no
  attributes.
* **`Item.reread`**: the statement for items.
-/

namespace Graft

open Graft.Parser

/-! ## 1. Attributes that were read -/

namespace Parser.Ensures

variable {α : Type} {P : α → Prop}

theorem loopN {step : Parser (Option α)} (h : step.Ensures fun x => ∀ a, x = some a → P a)
    (n : Nat) : (loopN step n).Ensures fun xs => ∀ a ∈ xs, P a := by
  induction n with
  | zero => exact fail _
  | succ n ih =>
    unfold Parser.loopN
    refine h.bind fun x hx => ?_
    cases x with
    | none => exact pure fun _ mem => nomatch mem
    | some a => exact ih.bind fun xs hxs => pure (List.forall_mem_cons.mpr ⟨hx a rfl, hxs⟩)

theorem loop {step : Parser (Option α)} (h : step.Ensures fun x => ∀ a, x = some a → P a) :
    (loop step).Ensures fun xs => ∀ a ∈ xs, P a :=
  after fun _ => loopN h _

end Parser.Ensures

namespace Grammar

/-- One round of reading attributes. -/
def attributeStep : Parser (Option Attribute) := do
  if ← peek (Peek.op "#") then return some (← outerAttribute) else return none

theorem attributeStep_none {c : Cursor} (h : Peek.op "#" c.rest = false) :
    attributeStep.run c = .ok (none, c) := by
  unfold attributeStep
  rw [run_peek_neg h]
  rfl

theorem attributeStep_some {a : Attribute} (ha : a.Readable) (rest : List Token) (stop : Span)
    (left : Option Span) :
    attributeStep.run ⟨a.render ++ rest, stop, left⟩ = .ok (some a, ⟨rest, stop, left⟩) := by
  have hpeek : Peek.op "#" (a.render ++ rest) = true := by
    rw [ha.render_eq]
    simp [Peek.op, Peek.ofChars, reveal_punct]
  unfold attributeStep
  rw [run_peek_pos hpeek, run_bind_of_ok (outerAttribute_run ha rest stop left)]
  rfl

theorem attributeTokens_cons (a : Attribute) (attrs : List Attribute) :
    attributeTokens (a :: attrs) = a.render ++ attributeTokens attrs := rfl

theorem attributesN_run {attrs : List Attribute} (readable : ∀ a ∈ attrs, a.Readable)
    {rest : List Token} (hrest : Peek.op "#" rest = false) (stop : Span) (left : Option Span) :
    ∀ n, attrs.length < n →
      (loopN attributeStep n).run ⟨attributeTokens attrs ++ rest, stop, left⟩ =
        .ok (attrs, ⟨rest, stop, left⟩) := by
  induction attrs with
  | nil =>
    intro n hn
    obtain ⟨n, rfl⟩ : ∃ m, n = m + 1 := ⟨n - 1, by omega⟩
    have hnone : attributeStep.run ⟨rest, stop, left⟩ = .ok (none, ⟨rest, stop, left⟩) :=
      attributeStep_none hrest
    unfold loopN
    exact (run_bind_of_ok hnone).trans rfl
  | cons a attrs ih =>
    intro n hn
    obtain ⟨n, rfl⟩ : ∃ m, n = m + 1 := ⟨n - 1, by omega⟩
    obtain ⟨ha, hattrs⟩ := List.forall_mem_cons.mp readable
    have hmore := ih hattrs n (by simpa using hn)
    unfold loopN
    rw [attributeTokens_cons, List.append_assoc,
      run_bind_of_ok (attributeStep_some ha _ stop left)]
    exact (run_bind_of_ok hmore).trans rfl

theorem length_le_weightOf_attributeTokens {attrs : List Attribute}
    (readable : ∀ a ∈ attrs, a.Readable) :
    attrs.length ≤ Token.weightOf (attributeTokens attrs) := by
  induction attrs with
  | nil => exact Nat.zero_le _
  | cons a attrs ih =>
    obtain ⟨ha, hattrs⟩ := List.forall_mem_cons.mp readable
    have hmore := ih hattrs
    rw [attributeTokens_cons, Token.weightOf_append, ha.render_eq]
    simp only [List.length_cons, Token.weightOf, Token.weight]
    omega

/-- **Attributes are read again from their own tokens**, as far as they go. -/
theorem outerAttributes_run {attrs : List Attribute} (readable : ∀ a ∈ attrs, a.Readable)
    {rest : List Token} (hrest : Peek.op "#" rest = false) (stop : Span) (left : Option Span) :
    outerAttributes.run ⟨attributeTokens attrs ++ rest, stop, left⟩ =
      .ok (attrs, ⟨rest, stop, left⟩) := by
  have hlength := length_le_weightOf_attributeTokens readable
  have hbound : attrs.length < Token.weightOf (attributeTokens attrs ++ rest) + 1 := by
    rw [Token.weightOf_append]
    omega
  unfold outerAttributes loop
  rw [run_bind_of_ok (run_get _)]
  exact attributesN_run readable hrest stop left _ hbound

/-! ## 3. The keyword behind a visibility -/

/-- What was read as a visibility where a word is ahead: `pub`, perhaps with a restriction, `crate`,
or nothing. -/
theorem visibility_eq_ok {i : Ident} {rest : List Token} {stop : Span} {left : Option Span}
    {v : Visibility} {c' : Cursor}
    (h : visibility.run ⟨.ident i :: rest, stop, left⟩ = .ok (v, c')) :
    (i.text = "pub" ∧ isInherited v = false ∧ (c'.rest = rest ∨
        ∃ inner s, reveal rest = .group .paren inner s :: c'.rest)) ∨
      (i.text = "crate" ∧ c'.rest = rest) ∨
      (i.text ≠ "pub" ∧ (i.text = "crate" → Peek.second (Peek.op "::") (.ident i :: rest) = true) ∧
        c'.rest = .ident i :: rest) := by
  unfold visibility at h
  rw [run_bind_of_ok (run_get _)] at h
  dsimp only at h
  rw [run_bind_of_ok (run_peek _ _)] at h
  split at h
  · obtain ⟨word, c₁, hword, h⟩ := run_bind_eq_ok h
    obtain ⟨hi, hrest⟩ := keyword_ident_eq_ok hword
    rw [run_bind_of_ok (run_peek _ _)] at h
    split at h
    · rw [run_bind_of_ok (run_ahead _ _)] at h
      split at h
      · rename_i inWord path paren c₃ hwithin
        rw [run_bind_of_ok (run_set _ _)] at h
        obtain ⟨rfl, rfl⟩ := run_pure_eq_ok h
        obtain ⟨inner, hgroup⟩ := within_eq_ok (by decide) hwithin
        exact .inl ⟨hi, rfl, .inr ⟨inner, paren, hrest ▸ hgroup⟩⟩
      · obtain ⟨rfl, rfl⟩ := run_pure_eq_ok h
        exact .inl ⟨hi, rfl, .inl hrest⟩
      · cases h
    · obtain ⟨rfl, rfl⟩ := run_pure_eq_ok h
      exact .inl ⟨hi, rfl, .inl hrest⟩
  · rename_i hpub
    rw [peek_word_ident, beq_iff_eq] at hpub
    rw [run_bind_of_ok (run_peek _ _)] at h
    split at h
    · obtain ⟨word, c₁, hword, h⟩ := run_bind_eq_ok h
      obtain ⟨-, rfl⟩ := run_pure_eq_ok h
      exact .inr (.inl (keyword_ident_eq_ok hword))
    · rename_i hcrate
      obtain ⟨-, rfl⟩ := run_pure_eq_ok h
      refine .inr (.inr ⟨hpub, fun hi => ?_, rfl⟩)
      simpa [Peek.butNot, peek_word_ident, hi] using hcrate

/-- What is ahead behind a visibility: the word that was written there, or a parenthesis that was
not taken for a part of the visibility, which then is not the one that nothing states. -/
inductive BehindVisibility (w : Ident) (more : List Token) (v : Visibility) : List Token → Prop
  | word : BehindVisibility w more v (.ident w :: more)
  | paren (stated : isInherited v = false) (inner : List Token) (s : Span) (rest : List Token) :
      BehindVisibility w more v (.group .paren inner s :: rest)

theorem visibility_behind {vis v : Visibility} {w : Ident} {more : List Token} {stop : Span}
    {left : Option Span} {c' : Cursor} (hpub : w.text ≠ "pub") (hcrate : w.text ≠ "crate")
    (h : visibility.run ⟨Part.tokensOf vis.parts ++ .ident w :: more, stop, left⟩ =
      .ok (v, c')) : BehindVisibility w more v c'.rest := by
  have hwords : "pub" ≠ "crate" := by decide
  cases vis with
  | inherited =>
    have h : visibility.run ⟨.ident w :: more, stop, left⟩ = .ok (v, c') := h
    rcases visibility_eq_ok h with ⟨hi, -⟩ | ⟨hi, -⟩ | ⟨-, -, hrest⟩
    · exact absurd hi hpub
    · exact absurd hi hcrate
    · exact hrest ▸ .word
  | everyone s =>
    have h : visibility.run ⟨.ident ⟨"pub", s⟩ :: .ident w :: more, stop, left⟩ = .ok (v, c') := h
    rcases visibility_eq_ok h with ⟨-, -, hrest | ⟨inner, s', hgroup⟩⟩ | ⟨hi, -⟩ | ⟨hi, -⟩
    · exact hrest ▸ .word
    · rw [reveal_ident] at hgroup
      nomatch hgroup
    · exact absurd hi hwords
    · exact absurd rfl hi
  | unit s =>
    have h : visibility.run ⟨.ident ⟨"crate", s⟩ :: .ident w :: more, stop, left⟩ =
      .ok (v, c') := h
    rcases visibility_eq_ok h with ⟨hi, -⟩ | ⟨-, hrest⟩ | ⟨-, hcolons, -⟩
    · exact absurd hi.symm hwords
    · exact hrest ▸ .word
    · have hsecond := hcolons rfl
      simp [Peek.second, Peek.skip, peek_colons_ident] at hsecond
  | restricted word paren inWord path =>
    let inside := Part.tokensOf (Part.wordAt "in" inWord ++ [Part.path path.toPath])
    have h : visibility.run ⟨.ident ⟨"pub", word⟩ :: .group .paren inside paren :: .ident w :: more,
      stop, left⟩ = .ok (v, c') := h
    rcases visibility_eq_ok h with ⟨-, stated, hrest | ⟨inner, s, hgroup⟩⟩ | ⟨hi, -⟩ | ⟨hi, -⟩
    · exact hrest ▸ .paren stated _ _ _
    · rw [reveal_group (by decide)] at hgroup
      injection hgroup with _ hrest
      exact hrest ▸ .word
    · exact absurd hi hwords
    · exact absurd rfl hi

theorem Visibility.tokens_before (vis : Visibility) (w : Ident) (more : List Token) :
    ∃ i rest, Part.tokensOf vis.parts ++ .ident w :: more = .ident i :: rest := by
  cases vis with
  | inherited => exact ⟨_, _, rfl⟩
  | everyone s => exact ⟨_, _, rfl⟩
  | unit s => exact ⟨_, _, rfl⟩
  | restricted word paren inWord path => exact ⟨_, _, rfl⟩

/-! ## 4. Which rule reads an item -/

end Grammar

/-- The keyword of structs and of enums. -/
inductive DeclKind.Word : DeclKind → String → Prop
  | struct : Word .struct "struct"
  | enum : Word .enum "enum"

/-- An item of some kind, without attributes. -/
def Item.Bare (kind : DeclKind) (i : Item) : Prop :=
  i.outline.kind = kind ∧ i.outline.attrs = []

namespace Grammar

theorem typeHead_bare (r : Rules) (text : String) :
    (typeHead r text).Ensures fun head => head.attrs = [] :=
  .after fun _ => .after fun _ => .after fun _ => .after fun _ => .pure rfl

theorem structItem_bare (r : Rules) : (structItem r).Ensures (Item.Bare .struct) := by
  refine (typeHead_bare r _).bind fun head bare => .after fun clause => .after fun paren =>
    .branch ?_ ?_
  · refine .after fun fields => .after fun clause => .after fun semi => .branch ?_ ?_
    · exact .after fun _ => .pure ⟨rfl, bare⟩
    · exact .branch (.expected _) (.expected _)
  · refine .after fun brace => .branch ?_ (.after fun semi => .branch ?_ ?_)
    · exact .after fun fields => .pure ⟨rfl, bare⟩
    · exact .after fun _ => .pure ⟨rfl, bare⟩
    · exact .branch (.expected _) (.expected _)

theorem enumItem_bare (r : Rules) : (enumItem r).Ensures (Item.Bare .enum) :=
  (typeHead_bare r _).bind fun _ bare => .after fun _ => .after fun _ => .pure ⟨rfl, bare⟩

/-- No signature is ahead where none of the words is that may begin one. -/
theorem peekSignature_run_false {c : Cursor}
    (h : ∀ text ∈ ["const", "async", "unsafe", "extern", "fn"], Peek.word text c.rest = false) :
    peekSignature.run c = .ok (false, c) := by
  have habi : abi?.run c = .ok (none, c) := by
    unfold abi?
    rw [run_peek_neg (h "extern" (by decide))]
    rfl
  unfold peekSignature
  refine run_succeeds_of_expected (Eq.trans ?_ (keyword_run_error (h "fn" (by decide))))
  rw [run_bind_of_ok (keyword?_run_none (h "const" (by decide))),
    run_bind_of_ok (keyword?_run_none (h "async" (by decide))),
    run_bind_of_ok (keyword?_run_none (h "unsafe" (by decide))), run_bind_of_ok habi]

/-- Behind the visibility of a struct or enum no signature is ahead. -/
theorem BehindVisibility.no_signature {kind : DeclKind} {w : Ident} {more ts : List Token}
    {v : Visibility} (h : BehindVisibility w more v ts) (hw : kind.Word w.text) :
    ∀ text ∈ ["const", "async", "unsafe", "extern", "fn"], Peek.word text ts = false := by
  cases h with
  | word =>
    simp only [peek_word_ident]
    generalize w.text = text at hw
    cases hw with
    | struct => decide
    | enum => decide
  | paren stated inner s rest => exact fun text _ => peek_word_group text (by decide) inner s rest

/-- The keyword of structs or enums leads to the rule for these. -/
theorem itemBody_word {kind : DeclKind} {w : Ident} {more : List Token} {next : Cursor}
    (hw : kind.Word w.text) (h : next.rest = .ident w :: more) (r : Rules) (start : Cursor)
    (v : Visibility) : (itemBody r start v next false).Ensures (Item.Bare kind) := by
  unfold itemBody
  simp only [h, peek_word_ident]
  generalize w.text = text at hw
  cases hw with
  | struct => exact structItem_bare r
  | enum => exact enumItem_bare r

/-- No item begins with a parenthesis. -/
theorem itemBody_paren {inner : List Token} {s : Span} {rest : List Token} {next : Cursor}
    {v : Visibility} (hv : isInherited v = false) (h : next.rest = .group .paren inner s :: rest)
    (r : Rules) (start : Cursor) (P : Item → Prop) :
    (itemBody r start v next false).Ensures P := by
  unfold itemBody
  simp only [h, peek_word_group _ (d := .paren) (by decide), hv]
  exact .after fun _ => .expected _

/-- **Where the attributes and the visibility of a struct or enum are written with its keyword
behind them, the attributes are read again, and the rest by the rule for that keyword.** -/
theorem item_reread {r : Rules} {kind : DeclKind} {attrs : List Attribute} {vis : Visibility}
    {w : Ident} {more : List Token} {stop : Span} {left : Option Span} {j : Item} {c' : Cursor}
    (readable : ∀ a ∈ attrs, a.Readable) (hw : kind.Word w.text)
    (h : (item r).run ⟨attributeTokens attrs ++ (Part.tokensOf vis.parts ++ .ident w :: more),
      stop, left⟩ = .ok (j, c')) :
    ∃ i, Item.Bare kind i ∧ j = i.prependAttrs attrs := by
  obtain ⟨first, rest, hfirst⟩ := Visibility.tokens_before vis w more
  have hpound : Peek.op "#" (Part.tokensOf vis.parts ++ .ident w :: more) = false := by
    rw [hfirst]
    simp [Peek.op, Peek.ofChars, reveal_ident]
  have hword : w.text ≠ "pub" ∧ w.text ≠ "crate" := by
    generalize w.text = text at hw
    cases hw with
    | struct => decide
    | enum => decide
  unfold item at h
  rw [run_bind_of_ok (run_get _),
    run_bind_of_ok (outerAttributes_run readable hpound stop left),
    run_bind_of_ok (run_ahead _ _)] at h
  split at h
  · cases h
  · rename_i v next hvis
    have hbehind := visibility_behind hword.1 hword.2 hvis
    -- No signature is behind the visibility, so the item is no function.
    have hnoFn : (do let _ ← visibility; if ← peekSignature then pure () else expected [] :
        Parser Unit).run ⟨Part.tokensOf vis.parts ++ .ident w :: more, stop, left⟩ =
        .error (.expected (spanAhead next) next.rest.isEmpty []) := by
      rw [run_bind_of_ok hvis,
        run_bind_of_ok (peekSignature_run_false (hbehind.no_signature hw))]
      rfl
    rw [run_bind_of_ok (run_succeeds_of_expected hnoFn)] at h
    obtain ⟨i, c₁, hi, h⟩ := run_bind_eq_ok h
    obtain ⟨rfl, -⟩ := run_pure_eq_ok h
    refine ⟨i, ?_, rfl⟩
    generalize hnext : next.rest = ahead at hbehind
    cases hbehind with
    | word => exact itemBody_word hw hnext r _ v _ _ _ hi
    | paren stated inner s after => exact itemBody_paren stated hnext r _ _ _ _ _ hi

end Grammar

/-! ## 5. Attributes of types -/

namespace Item

theorem kind_prependAttrs (i : Item) (more : List Attribute) :
    (i.prependAttrs more).outline.kind = i.outline.kind := by
  cases i <;> rfl

/-- Attributes in front of a type are attributes of the type; other items have none in outline. -/
theorem attrs_prependAttrs (i : Item) (more : List Attribute) :
    (i.prependAttrs more).outline.attrs =
      if i.outline.kind = .other then [] else more ++ i.outline.attrs := by
  cases i <;> rfl

end Item

/-- The beginning of a type as it is written: attributes, visibility, keyword. -/
theorem TypeHead.tokens_eq {head : TypeHead} (outer : ∀ a ∈ head.attrs, a.inner = false)
    (text : String) (behind : List Part) :
    Part.tokensOf (head.parts text ++ behind) =
      attributeTokens head.attrs ++ (Part.tokensOf head.vis.parts ++
        .ident ⟨text, head.word⟩ ::
          Part.tokensOf (.token (.ident head.ident) :: head.generics.paramParts ++ behind)) := by
  unfold TypeHead.parts
  simp only [Part.tokensOf_append, Part.tokensOf_outerParts outer, List.append_assoc]
  rfl

theorem Item.tokens_eq {i : Item} (hkind : i.outline.kind = .struct ∨ i.outline.kind = .enum)
    (outer : ∀ a ∈ i.outline.attrs, a.inner = false) :
    ∃ (vis : Visibility) (w : Ident) (more : List Token), i.outline.kind.Word w.text ∧
      i.tokens = attributeTokens i.outline.attrs ++
        (Part.tokensOf vis.parts ++ .ident w :: more) := by
  cases i with
  | struct head fields =>
    exact ⟨head.vis, ⟨"struct", head.word⟩, _, .struct, TypeHead.tokens_eq outer "struct" _⟩
  | enum head span variants trailing =>
    have htokens := TypeHead.tokens_eq outer "enum" (head.generics.clauseParts ++
      [.group .brace span (Part.punctuated "," trailing (variants.map Variant.parts))])
    rw [← List.append_assoc] at htokens
    exact ⟨head.vis, ⟨"enum", head.word⟩, _, .enum, htokens⟩
  | union | function | other | verbatim => simp [Item.outline, Outline.ofHead] at hkind

/-- **A struct or enum that is read again from its own tokens is of the same kind and has the same
attributes.** -/
theorem Item.reread {i j : Item} (hkind : i.outline.kind = .struct ∨ i.outline.kind = .enum)
    (readable : ∀ a ∈ i.outline.attrs, a.Readable) (h : Item.parse i.tokens = .ok j) :
    j.outline.kind = i.outline.kind ∧ j.outline.attrs = i.outline.attrs := by
  obtain ⟨vis, w, more, hw, htokens⟩ := tokens_eq hkind fun a ha => (readable a ha).outer
  have hother : i.outline.kind ≠ .other := by
    rcases hkind with hkind | hkind <;> rw [hkind] <;> decide
  obtain ⟨c, hrun, -⟩ := parse_eq_ok h
  rw [htokens] at hrun
  obtain ⟨k, ⟨hk, bare⟩, rfl⟩ := Grammar.item_reread readable hw hrun
  rw [kind_prependAttrs, attrs_prependAttrs, hk, if_neg hother, bare, List.append_nil]
  exact ⟨rfl, rfl⟩

end Graft
