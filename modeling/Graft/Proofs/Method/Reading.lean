import Graft.Method
import Mathlib

/-!
# Reading what was written

What written code does is told from its tokens alone. Here are the readers that several statements
share, each with the law that it gives back what was written.

* `Token.behind?`, `Token.before?`: what follows a known beginning, and what stands in front of a
  known end; `Token.cutAt?`: the tokens on both sides of the first such mark.
* `Method.read?`: the name and the body of a method; `Method.saysAsync`: whether it is marked so.
  `Method.dropWhile_tokens` has all that follows `fn`.
* `WrittenMethod.read?`: a method without generic parameters, with what stands between its
  parentheses and what stands behind them.
-/

namespace Graft

/-! ## 1. Tokens -/

namespace Token

/-- Whether a token is this word. -/
def isWord (text : String) : Token → Bool
  | .ident i => i.text == text
  | _ => false

/-- Whether a token is this punctuation character. -/
def isMark (c : Char) : Token → Bool
  | .punct d _ _ => d == c
  | _ => false

@[simp]
theorem sameList_self (ts : List Token) : sameList ts ts = true := beq_self_eq_true _

/-- What follows this beginning, if the tokens begin so. -/
def behind? (front ts : List Token) : Option (List Token) :=
  if sameList (ts.take front.length) front then some (ts.drop front.length) else none

theorem behind?_append (front rest : List Token) : behind? front (front ++ rest) = some rest := by
  rw [behind?, List.take_left, List.drop_left, if_pos (sameList_self front)]

/-- What begins with another token does not begin so. -/
theorem behind?_word_eq_none {text : String} {front rest : List Token} {t : Token}
    (h : isWord text t = false) : behind? (word text :: front) (t :: rest) = none := by
  have differ : sameList (t :: rest.take front.length) (word text :: front) = false := by
    refine beq_eq_false_iff_ne.mpr ?_
    cases t with
    | ident i =>
      have other : i.text ≠ text := beq_eq_false_iff_ne.mp h
      simp [atomsOf, atoms, word, Ident.new, other]
    | punct c spacing s => simp [atomsOf, atoms, word]
    | literal text s => simp [atomsOf, atoms, word]
    | group d inner s => simp [atomsOf, atoms, word]
  exact if_neg (Bool.eq_false_iff.mp differ)

/-- What stands in front of this end, if the tokens end so. -/
def before? (rear ts : List Token) : Option (List Token) :=
  if sameList (ts.drop (ts.length - rear.length)) rear then
    some (ts.take (ts.length - rear.length))
  else none

theorem before?_append (ts rear : List Token) : before? rear (ts ++ rear) = some ts := by
  rw [before?, List.length_append, Nat.add_sub_cancel, List.take_left, List.drop_left,
    if_pos (sameList_self rear)]

/-- The tokens in front of the first such mark, and those behind it. -/
def cutAt? (c : Char) (ts : List Token) : Option (List Token × List Token) :=
  match ts.dropWhile (!isMark c ·) with
  | _ :: rest => some (ts.takeWhile (!isMark c ·), rest)
  | [] => none

theorem cutAt?_append {c : Char} {first : List Token} (closed : ∀ t ∈ first, isMark c t = false)
    (spacing : Spacing) (span : Span) (rest : List Token) :
    cutAt? c (first ++ .punct c spacing span :: rest) = some (first, rest) := by
  have skipped : ∀ t ∈ first, (!isMark c t) = true := fun t mem => by rw [closed t mem]; rfl
  have drop : (.punct c spacing span :: rest).dropWhile (!isMark c ·) =
      .punct c spacing span :: rest := List.dropWhile_cons_of_neg (by simp [isMark])
  have take : (.punct c spacing span :: rest).takeWhile (!isMark c ·) = [] :=
    List.takeWhile_cons_of_neg (by simp [isMark])
  unfold cutAt?
  rw [List.dropWhile_append_of_pos skipped, List.takeWhile_append_of_pos skipped, drop, take,
    List.append_nil]

theorem semicolon_eq : operator ";" = [.punct ';' .alone .callSite] := rfl

end Token

/-! ## 2. Methods -/

/-- An attribute in the open is a `#`, perhaps a `!`, and a group. -/
theorem mem_attributeTokens {attrs : List Attribute} {t : Token} (mem : t ∈ attributeTokens attrs) :
    (∃ s, t = .punct '#' .alone s) ∨ (∃ s, t = .punct '!' .alone s) ∨
      ∃ inner s, t = .group .bracket inner s := by
  obtain ⟨a, -, mem⟩ := List.mem_flatMap.mp mem
  unfold Attribute.render at mem
  rw [List.mem_append, List.mem_append] at mem
  rcases mem with (mem | mem) | mem
  · exact .inl ⟨_, List.mem_singleton.mp mem⟩
  · split at mem
    · exact .inr (.inl ⟨_, List.mem_singleton.mp mem⟩)
    · nomatch mem
  · exact .inr (.inr ⟨_, _, List.mem_singleton.mp mem⟩)

theorem attributeTokens_isWord (attrs : List Attribute) (text : String) :
    ∀ t ∈ attributeTokens attrs, Token.isWord text t = false := by
  intro t mem
  obtain ⟨s, rfl⟩ | ⟨s, rfl⟩ | ⟨inner, s, rfl⟩ := mem_attributeTokens mem <;> rfl

theorem Visibility.isWord_eq_false (vis : Visibility) {text : String} (pub : text ≠ "pub")
    (crate : text ≠ "crate") : ∀ t ∈ Part.tokensOf vis.parts, Token.isWord text t = false := by
  cases vis with
  | inherited => exact fun t mem => nomatch mem
  | everyone s => simp [parts, Part.word, Part.tokensOf, Part.tokens, Token.isWord, pub.symm]
  | unit s => simp [parts, Part.word, Part.tokensOf, Part.tokens, Token.isWord, crate.symm]
  | restricted word paren inWord path =>
    simp [parts, Part.word, Part.tokensOf, Part.tokens, Token.isWord, pub.symm]

namespace Method

/-- The name and the body of a method: what stands behind `fn`, and between the last braces. -/
def read? (ts : List Token) : Option (Ident × List Token) :=
  match ts.dropWhile (!Token.isWord "fn" ·) with
  | _ :: .ident name :: rest =>
    match rest.getLast? with
    | some (.group .brace body _) => some (name, body)
    | _ => none
  | _ => none

/-- Whether a method is marked as asynchronous, in front of `fn`. -/
def saysAsync (ts : List Token) : Bool :=
  (ts.takeWhile (!Token.isWord "fn" ·)).any (Token.isWord "async")

variable (m : Method)

/-- What stands in front of `fn`. -/
def front : List Token :=
  attributeTokens m.attrs ++ Part.tokensOf m.vis.parts ++ if m.async then [word "async"] else []

/-- What stands between the parameters and the body. -/
def clauses : List Token :=
  m.output.elim [] (operator "->" ++ ·) ++ Part.tokensOf m.generics.clauseParts

theorem tokens_split : m.tokens = m.front ++ word "fn" :: .ident m.name ::
    (Part.tokensOf m.generics.paramParts ++ parens (commaSeparated m.inputs) ::
      (m.clauses ++ [braces m.body])) := by
  unfold tokens front clauses
  cases m.output <;> simp

/-- Neither an attribute nor a visibility holds the word `fn` in the open. -/
theorem front_isWord_fn : ∀ t ∈ m.front, (!Token.isWord "fn" t) = true := by
  intro t mem
  rw [Bool.not_eq_true']
  rcases List.mem_append.mp mem with mem | mem
  · rcases List.mem_append.mp mem with mem | mem
    · exact attributeTokens_isWord m.attrs "fn" t mem
    · exact m.vis.isWord_eq_false (by decide) (by decide) t mem
  · split at mem
    · rw [List.mem_singleton.mp mem]
      rfl
    · nomatch mem

/-- From `fn` on, a method is its name and what follows that. -/
theorem dropWhile_tokens : m.tokens.dropWhile (!Token.isWord "fn" ·) =
    word "fn" :: .ident m.name :: (Part.tokensOf m.generics.paramParts ++
      parens (commaSeparated m.inputs) :: (m.clauses ++ [braces m.body])) := by
  rw [m.tokens_split, List.dropWhile_append_of_pos m.front_isWord_fn]
  exact List.dropWhile_cons_of_neg (by decide)

/-- **A method is read as it was written.** -/
theorem read?_tokens : read? m.tokens = some (m.name, m.body) := by
  unfold read?
  rw [m.dropWhile_tokens]
  dsimp only
  rw [← List.cons_append, ← List.append_assoc, List.getLast?_concat]
  rfl

theorem saysAsync_tokens : saysAsync m.tokens = m.async := by
  have attrs : (attributeTokens m.attrs).any (Token.isWord "async") = false :=
    List.any_eq_false.mpr fun t mem =>
      Bool.eq_false_iff.mp (attributeTokens_isWord m.attrs "async" t mem)
  have vis : (Part.tokensOf m.vis.parts).any (Token.isWord "async") = false :=
    List.any_eq_false.mpr fun t mem =>
      Bool.eq_false_iff.mp (m.vis.isWord_eq_false (by decide) (by decide) t mem)
  have stops : ∀ ts, (word "fn" :: ts).takeWhile (!Token.isWord "fn" ·) = [] := fun ts => rfl
  rw [saysAsync, m.tokens_split, List.takeWhile_append_of_pos m.front_isWord_fn, stops,
    List.append_nil, front, List.any_append, List.any_append, attrs, vis]
  cases m.async <;> rfl

end Method

/-- What is written of a method without generic parameters, from its name on. -/
structure WrittenMethod where
  name : Ident
  /-- What stands between the parentheses. -/
  inputs : List Token
  /-- What stands between the parameters and the body: the result type and the `where` clause. -/
  clauses : List Token
  body : List Token

/-- A method without generic parameters, from its tokens. -/
def WrittenMethod.read? (ts : List Token) : Option WrittenMethod :=
  match ts.dropWhile (!Token.isWord "fn" ·) with
  | _ :: .ident name :: .group .paren inputs _ :: rest =>
    match rest.getLast? with
    | some (.group .brace body _) => some ⟨name, inputs, rest.dropLast, body⟩
    | _ => none
  | _ => none

/-- **All of a method is read as it was written**, if it has no generic parameters. -/
theorem WrittenMethod.read?_tokens {m : Method} (plain : m.generics.params = []) :
    read? m.tokens = some ⟨m.name, commaSeparated m.inputs, m.clauses, m.body⟩ := by
  have params : Part.tokensOf m.generics.paramParts = [] := by
    rw [Generics.paramParts, Generics.bracketed, if_pos (List.isEmpty_iff.mpr plain)]
    rfl
  unfold read?
  rw [m.dropWhile_tokens, params]
  dsimp only [List.nil_append, parens]
  rw [List.getLast?_concat, List.dropLast_concat]
  rfl

end Graft
