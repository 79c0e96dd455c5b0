import Graft.Token.Lexer
import Graft.Literal

/-!
# Quoted texts are read back

A text is written between quotes by one function and read by two: the scanner that finds where the
literal ends, and the reader that tells its text. Both understand what was written, for every text.

* `Quoted.Written`: every way in which a character is written. `encode_cons` says that there is no
  other, so each reader is compared with the writer once for each way.
* `decode_encode`: the reader gives the text back.
* `cooked_encode`: the scanner goes over all of it and stops at the closing quote.
* `Token.lex?_literal`, `Lit.read?_literal`: a text as a literal is one token, whose value is the
  text.
-/

namespace Graft

/-! ## 1. Hexadecimal digits -/

/-- The value of digits behind a value that was read before them. -/
def digitsAfter (v : Nat) (ds : List Nat) : Nat := ds.foldl (fun v d => v * 16 + d) v

theorem hexValue?_digitChar {d : Nat} (hd : d < 16) : hexValue? d.digitChar = some d := by
  have all : ∀ d < 16, hexValue? (Nat.digitChar d) = some d := by decide
  exact all d hd

/-- A digit is neither the mark that may stand between digits nor the brace behind them. -/
theorem digitChar_ne_marks {d : Nat} (hd : d < 16) :
    d.digitChar ≠ '_' ∧ d.digitChar ≠ '\x7d' := by
  have all : ∀ d < 16, Nat.digitChar d ≠ '_' ∧ Nat.digitChar d ≠ '\x7d' := by decide
  exact all d hd

/-- The hexadecimal text of a number consists of digits whose value is the number. -/
theorem toDigits_eq_map (n : Nat) :
    ∃ ds, (∀ d ∈ ds, d < 16) ∧ Nat.toDigits 16 n = ds.map Nat.digitChar ∧ digitsAfter 0 ds = n := by
  -- The last digit comes off the end, so the recursion is on the number without it.
  by_cases hn : n < 16
  · refine ⟨[n], ?_, Nat.toDigits_of_lt_base hn, ?_⟩
    · simpa using hn
    · simp [digitsAfter]
  · obtain ⟨ds, small, written, value⟩ := toDigits_eq_map (n / 16)
    have hlast : n % 16 < 16 := Nat.mod_lt n (by decide)
    refine ⟨ds ++ [n % 16], ?_, ?_, ?_⟩
    · intro d hd
      rcases List.mem_append.mp hd with hd | hd
      · exact small d hd
      · rwa [List.mem_singleton.mp hd]
    · rw [Nat.toDigits_of_base_le (by decide) (Nat.le_of_not_lt hn), written, List.map_append]
      rfl
    · rw [digitsAfter] at value ⊢
      rw [List.foldl_append, value]
      exact Nat.div_add_mod' n 16
termination_by n
decreasing_by omega

/-! ## 2. Writing -/

namespace Quoted

/-- Characters with a short escape, and the mark of it. -/
inductive ShortEscape : Char → Char → Prop where
  | tab : ShortEscape '\t' 't'
  | carriageReturn : ShortEscape '\r' 'r'
  | lineFeed : ShortEscape '\n' 'n'
  | quote : ShortEscape '"' '"'
  | backslash : ShortEscape '\\' '\\'
  | nul : ShortEscape (Char.ofNat 0) '0'

/-- **How a character is written between double quotes.** -/
inductive Written : Char → List Char → Prop where
  /-- As itself, unless it is a quote, a backslash or a carriage return. -/
  | itself {c : Char} (noQuote : c ≠ '"') (noBackslash : c ≠ '\\') (noReturn : c ≠ '\r') :
      Written c [c]
  /-- By a backslash and a mark. -/
  | short {c mark : Char} (h : ShortEscape c mark) : Written c ['\\', mark]
  /-- A NUL in front of a digit, by two digits of its own. -/
  | zeroByte : Written (Char.ofNat 0) ['\\', 'x', '0', '0']
  | number (c : Char) : Written c (byNumber c)

theorem written_escape (c : Char) : Written c (escape c) := by
  unfold escape
  split
  · exact .short .tab
  · exact .short .carriageReturn
  · exact .short .lineFeed
  · exact .short .quote
  · exact .short .backslash
  · rename_i noTab noReturn noFeed noQuote noBackslash
    split
    · exact .itself noQuote noBackslash noReturn
    · exact .number c

/-- **A text is written character by character**, each in one of the ways listed. -/
theorem encode_cons (c : Char) (cs : List Char) :
    ∃ w, Written c w ∧ encode (c :: cs) = w ++ encode cs := by
  refine ⟨_, ?_, encode.eq_2 c cs⟩
  split
  · rename_i hc
    have hc : c = Char.ofNat 0 := by
      rw [← Char.ofNat_toNat c, beq_iff_eq.mp hc]
    subst hc
    split
    · exact .zeroByte
    · exact .short .nul
  · exact written_escape c

/-! ## 3. The text that is read -/

theorem decode_digits {ds : List Nat} (small : ∀ d ∈ ds, d < 16) (v : Nat) (tail : List Char) :
    decode (.number v) (ds.map Nat.digitChar ++ tail) =
      decode (.number (digitsAfter v ds)) tail := by
  induction ds generalizing v with
  | nil => rfl
  | cons d ds ih =>
    have hd := small d List.mem_cons_self
    have noBrace : ¬ (d.digitChar == '\x7d') = true :=
      fun h => (digitChar_ne_marks hd).2 (beq_iff_eq.mp h)
    rw [List.map_cons, List.cons_append, decode, if_neg noBrace, hexValue?_digitChar hd]
    exact ih (fun e he => small e (List.mem_cons_of_mem _ he)) (v * 16 + d)

/-- Whatever way a character was written in, it is read as this character. -/
theorem decode_written {c : Char} {w : List Char} (h : Written c w) (tail : List Char) :
    decode .text (w ++ tail) = c :: decode .text tail := by
  cases h with
  | itself noQuote noBackslash noReturn => simp [decode, noQuote, noBackslash, noReturn]
  | short h => cases h <;> rfl
  | zeroByte => rfl
  | number c =>
    obtain ⟨ds, small, written, value⟩ := toDigits_eq_map c.toNat
    show decode (.number 0) (Nat.toDigits 16 c.toNat ++ ['\x7d'] ++ tail) = _
    rw [written, List.append_assoc, decode_digits small, value]
    show Char.ofNat c.toNat :: decode .text tail = _
    rw [Char.ofNat_toNat]

/-- **A text is read back from what was written**, up to the closing quote. -/
theorem decode_encode (cs tail : List Char) : decode .text (encode cs ++ '"' :: tail) = cs := by
  induction cs with
  | nil => rfl
  | cons c cs ih =>
    obtain ⟨w, hw, hcs⟩ := encode_cons c cs
    rw [hcs, List.append_assoc, decode_written hw, ih]

end Quoted

/-! ## 4. The extent of a literal -/

namespace Lexer

theorem cooked_digits {ds : List Nat} (small : ∀ d ∈ ds, d < 16) (v k : Nat)
    (few : k + ds.length ≤ 6) (tail : List Char) :
    cooked .text (.number v k) (ds.map Nat.digitChar ++ tail) =
      cooked .text (.number (digitsAfter v ds) (k + ds.length)) tail := by
  induction ds generalizing v k with
  | nil => rfl
  | cons d ds ih =>
    have hd := small d List.mem_cons_self
    obtain ⟨noMark, noBrace⟩ := digitChar_ne_marks hd
    rw [List.length_cons] at few
    have stepped : Flavor.text.step (.number v k) d.digitChar =
        some (.number (v * 16 + d) (k + 1)) := by
      have hk : k ≠ 6 := by omega
      simp [Flavor.step, noMark, noBrace, hexValue?_digitChar hd, hk]
    rw [List.map_cons, List.cons_append, cooked, stepped]
    simp only [Mode.closable, Bool.and_false, Bool.false_eq_true, if_false]
    rw [ih (fun e he => small e (List.mem_cons_of_mem _ he)) _ _ (by omega), List.length_cons,
      Nat.add_assoc, Nat.add_comm 1]
    rfl

/-- The number of a character is one that a scanner admits. -/
theorem isScalar_toNat (c : Char) : isScalar c.toNat = true := by
  have valid := c.valid
  simp only [UInt32.isValidChar, Nat.isValidChar] at valid
  simp only [isScalar, Char.toNat, Bool.or_eq_true, Bool.and_eq_true, decide_eq_true_eq]
  omega

/-- Whatever way a character was written in, the scanner goes over it and on. -/
theorem cooked_written {c : Char} {w : List Char} (h : Quoted.Written c w) (tail : List Char) :
    cooked .text .plain (w ++ tail) = cooked .text .plain tail := by
  cases h with
  | itself noQuote noBackslash noReturn =>
    simp [cooked, Flavor.step, Flavor.plain, Flavor.admits, noQuote, noBackslash, noReturn]
  | short h => cases h <;> rfl
  | zeroByte => rfl
  | number c =>
    obtain ⟨ds, small, written, value⟩ := toDigits_eq_map c.toNat
    have some_ : 0 < ds.length := by
      rw [← List.length_map Nat.digitChar, ← written]
      exact Nat.length_toDigits_pos
    -- No character needs more digits than the scanner takes.
    have few : ds.length ≤ 6 := by
      rw [← List.length_map Nat.digitChar, ← written,
        Nat.length_toDigits_le_iff (by decide) (by decide)]
      have := isScalar_toNat c
      simp only [isScalar, Bool.or_eq_true, Bool.and_eq_true, decide_eq_true_eq] at this
      omega
    show cooked .text (.number 0 0) (Nat.toDigits 16 c.toNat ++ ['\x7d'] ++ tail) = _
    rw [written, List.append_assoc, cooked_digits small 0 0 (by omega), value, Nat.zero_add]
    have closed : Flavor.text.step (.number c.toNat ds.length) '\x7d' = some .plain := by
      simp [Flavor.step, some_, isScalar_toNat]
    rw [List.cons_append, cooked, closed]
    rfl

/-- **The scanner goes over a text that was written and stops behind the closing quote.** -/
theorem cooked_encode (cs tail : List Char) :
    cooked .text .plain (Quoted.encode cs ++ '"' :: tail) = some (afterSuffix tail) := by
  induction cs with
  | nil => rfl
  | cons c cs ih =>
    obtain ⟨w, hw, hcs⟩ := Quoted.encode_cons c cs
    rw [hcs, List.append_assoc, cooked_written hw, ih]

theorem skipBlanks_quote (n : Nat) (cs : List Char) : skipBlanks n ('"' :: cs) = '"' :: cs := by
  cases n <;> rfl

theorem leaf?_quoted {cs left : List Char} (h : cooked .text .plain cs = some left) :
    leaf? ('"' :: cs) =
      some (.literal (String.ofList (taken ('"' :: cs) left)) .callSite, left) := by
  unfold leaf?
  rw [quoted?, h]
  rfl

/-- A quoted text ahead is read as one token. -/
theorem loop_quoted {cs left : List Char} (h : cooked .text .plain cs = some left)
    (source : String) (total n : Nat) (acc : List Token) :
    loop source total (n + 1) [] acc ('"' :: cs) =
      loop source total n []
        (.literal (String.ofList (taken ('"' :: cs) left))
          (.range source (total - ('"' :: cs).length) (total - left.length)) :: acc) left := by
  have noDoc : docComment? ('"' :: cs) = none := rfl
  have noOpening : opens ('"' :: cs) = none := rfl
  have noClosing : closes ('"' :: cs) = none := rfl
  rw [loop]
  simp only [skipBlanks_quote, noDoc, noOpening, noClosing, leaf?_quoted h]
  rfl

theorem loop_nil (source : String) (total n : Nat) (acc : List Token) :
    loop source total (n + 1) [] acc [] = some acc.reverse := rfl

theorem taken_nil (cs : List Char) : taken cs [] = cs := by
  rw [taken, List.length_nil, Nat.sub_zero, List.take_length]

end Lexer

/-- **A text as a literal is one token.** -/
theorem Token.lex?_literal (source s : String) :
    Token.lex? source (Quoted.literal s) =
      some [.literal (Quoted.literal s) (.range source 0 (Quoted.literal s).toList.length)] := by
  have whole : (Quoted.literal s).toList = '"' :: (Quoted.encode s.toList ++ ['"']) :=
    String.toList_ofList
  have extent : Lexer.cooked .text .plain (Quoted.encode s.toList ++ ['"']) = some [] :=
    Lexer.cooked_encode s.toList []
  rw [Token.lex?, whole]
  show Lexer.loop source _ _ [] [] ('"' :: (Quoted.encode s.toList ++ ['"'])) = _
  rw [Lexer.loop_quoted extent, List.length_cons, Lexer.loop_nil, Lexer.taken_nil, Nat.sub_self]
  rfl

/-- **The value of a text as a literal is the text.** -/
theorem Lit.read?_literal (s : String) : Lit.read? (Quoted.literal s) = some (.str s) := by
  rw [Lit.read?, Quoted.literal, String.toList_ofList]
  show some (Lit.str (String.ofList (Quoted.decode .text (Quoted.encode s.toList ++ ['"'])))) = _
  rw [Quoted.decode_encode, String.ofList_toList]

end Graft
