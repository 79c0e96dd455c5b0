import Graft.Proofs.Grammar.Runs
import Graft.Token.Lexer

/-!
# Texts spell no invisible groups

A group without delimiters comes from elsewhere than a text: the scanner opens a group only at a
delimiter that is written. So where tokens come from a text, a parser never looks through one.

* `Lexer.loop_visible`: the invariant of the scanner. Neither the tokens read so far nor those
  before a group that is still open are invisible groups, and no open group is one.
* **`Token.lex?_visible`**: the tokens of a text are visible.
-/

namespace Graft

theorem Token.isVisible_withSpan (s : Span) (t : Token) :
    (t.withSpan s).isVisible = t.isVisible := by
  cases t with
  | group d inner s' => cases d <;> rfl
  | ident i => rfl
  | punct ch sp s' => rfl
  | literal text s' => rfl

theorem Token.isVisible_group {d : Delimiter} (hd : d ≠ .invisible) (inner : List Token)
    (s : Span) : (Token.group d inner s).isVisible = true := by
  cases d with
  | invisible => exact absurd rfl hd
  | paren => rfl
  | bracket => rfl
  | brace => rfl

namespace Lexer

/-! ## 1. Single tokens -/

theorem punct?_visible {cs rest : List Char} {t : Token} (h : punct? cs = some (t, rest)) :
    t.isVisible = true := by
  unfold punct? at h
  simp only [Option.bind_eq_bind, Option.bind_eq_some_iff] at h
  obtain ⟨⟨ch, after⟩, -, h⟩ := h
  split at h
  · obtain ⟨_, -, h⟩ := Option.bind_eq_some_iff.mp h
    have hfound : some (Token.punct ch .joint .callSite, after) = some (t, rest) := by
      split at h
      · cases h
      · split at h
        · exact h
        · cases h
      · exact h
    injection hfound with hfound
    injection hfound with ht _
    rw [← ht]
    rfl
  · injection h with h
    injection h with ht _
    rw [← ht]
    rfl

/-- A token that is no group is visible. -/
theorem leaf?_visible {cs rest : List Char} {t : Token} (h : leaf? cs = some (t, rest)) :
    t.isVisible = true := by
  unfold leaf? at h
  split at h
  · injection h with h
    injection h with h _
    rw [← h]
    rfl
  · split at h
    · rename_i found hpunct
      injection h with h
      subst h
      exact punct?_visible hpunct
    · split at h
      · cases h
      · split at h
        · injection h with h
          injection h with h _
          rw [← h]
          rfl
        · split at h
          · injection h with h
            injection h with h _
            rw [← h]
            rfl
          · cases h

theorem docTokens_visible (text : List Char) (inner : Bool) (s : Span) :
    Visible (docTokens text inner s) := by
  unfold docTokens
  cases inner <;> simp [Visible, Token.isVisible]

/-! ## 2. Groups -/

theorem opens_ne_invisible {cs : List Char} {d : Delimiter} (h : opens cs = some d) :
    d ≠ .invisible := by
  unfold opens at h
  split at h
  · split at h
    · cases h
    · injection h with h
      subst h
      decide
  · injection h with h
    subst h
    decide
  · injection h with h
    subst h
    decide
  · cases h

/-- A group that is open has a delimiter, and no token before it is an invisible group. -/
structure Frame.Visible (f : Frame) : Prop where
  delim : f.delim ≠ .invisible
  before : Graft.Visible f.before

/-- **The scanner makes no invisible group**, as long as it has made none. -/
theorem loop_visible {source : String} {total n : Nat} {stack : List Frame} {acc ts : List Token}
    {input : List Char} (hstack : ∀ f ∈ stack, f.Visible) (hacc : Visible acc)
    (h : loop source total n stack acc input = some ts) : Visible ts := by
  induction n generalizing stack acc input with
  | zero => cases h
  | succ n ih =>
    unfold loop at h
    dsimp only at h
    split at h
    · split at h
      · exact ih hstack ((docTokens_visible _ _ _).reverse.append hacc) h
      · cases h
    · split at h
      · split at h
        · injection h with h
          rw [← h]
          exact hacc.reverse
        · cases h
      · split at h
        · rename_i d _ hopens
          refine ih (List.forall_mem_cons.mpr ⟨?_, hstack⟩) .nil h
          exact ⟨opens_ne_invisible hopens, hacc⟩
        · split at h
          · rename_i d frame below _ _ hd
            obtain ⟨hframe, hbelow⟩ := List.forall_mem_cons.mp hstack
            have hgroup := Token.isVisible_group (eq_of_beq hd ▸ hframe.delim) acc.reverse
            exact ih hbelow (.cons (hgroup _) hframe.before) h
          · cases h
        · cases h
        · split at h
          · rename_i token rest hleaf
            refine ih hstack (.cons ?_ hacc) h
            rw [Token.isVisible_withSpan]
            exact leaf?_visible hleaf
          · cases h

end Lexer

/-- **No token of a text is an invisible group.** -/
theorem Token.lex?_visible {source text : String} {ts : List Token}
    (h : Token.lex? source text = some ts) : Visible ts :=
  Lexer.loop_visible (fun _ hf => absurd hf List.not_mem_nil) .nil h

end Graft
