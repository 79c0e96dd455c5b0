import Graft.Proofs.Number.Saturation
import Graft.Proofs.Store.Integers
import Mathlib

/-!
# What the readers make of an integer

An integer that no 64 bits hold is kept as its decimal text, and the readers that see any value as a
text, an integer or a truth value meet either form.

* `Stored.asString_toStored`, `Stored.asInteger_toStored`: the text is that of the integer in both
  forms, and the integer is the one that was written or the end of the 64 bits on its side.
* `Stored.asBool_toStored`: as a truth value a decimal text is read like a 64-bit integer, so the
  text of an integer that is none is false.
* **`readers_see_integer`**, **`bool_reader_exact`**: the same through a store.
-/

namespace Graft

/-! ## 1. The text of an integer -/

theorem isBlank_digitChar {d : Nat} (hd : d < 10) : isBlank (digitChar d) = false := by
  have all : ∀ d < 10, isBlank (digitChar d) = false := by decide
  exact all d hd

theorem not_isBlank_of_mem_decimal {n : Int} {c : Char} (h : c ∈ decimal n) : isBlank c = false := by
  have hdigits : ∀ c ∈ digitsOf n.natAbs, isBlank c = false := by
    intro c hc
    obtain ⟨d, hd, rfl⟩ := exists_digit_of_mem hc
    exact isBlank_digitChar hd
  unfold decimal at h
  split at h
  · rcases List.mem_cons.mp h with rfl | h
    · decide
    · exact hdigits c h
  · exact hdigits c h

theorem dropWhile_isBlank {front cs : List Char} (blank : ∀ c ∈ front, isBlank c = true)
    (start : ∀ c, cs.head? = some c → isBlank c = false) :
    (front ++ cs).dropWhile isBlank = cs := by
  rw [List.dropWhile_append_of_pos blank]
  cases cs with
  | nil => rfl
  | cons c more => exact List.dropWhile_cons_of_neg (by rw [start c rfl]; exact Bool.false_ne_true)

/-- Of a text without blanks, blanks around it are all that is taken away. -/
theorem trimBlanks_padded {front cs back : List Char} (blank : ∀ c ∈ front, isBlank c = true)
    (blank' : ∀ c ∈ back, isBlank c = true) (plain : ∀ c ∈ cs, isBlank c = false)
    (nonempty : cs ≠ []) : trimBlanks (front ++ cs ++ back) = cs := by
  have ahead : (front ++ (cs ++ back)).dropWhile isBlank = cs ++ back := by
    refine dropWhile_isBlank blank fun c first => ?_
    rw [List.head?_append_of_ne_nil cs nonempty] at first
    exact plain c (List.mem_of_mem_head? first)
  have behind : (back.reverse ++ cs.reverse).dropWhile isBlank = cs.reverse := by
    refine dropWhile_isBlank (fun c mem => blank' c (List.mem_reverse.mp mem)) fun c last => ?_
    exact plain c (List.mem_reverse.mp (List.mem_of_mem_head? last))
  rw [trimBlanks, List.append_assoc, ahead, List.reverse_append, behind, List.reverse_reverse]

theorem decimal_ne_nil (n : Int) : decimal n ≠ [] := by
  obtain ⟨d, rest, -, h⟩ := digitsOf_eq_cons n.natAbs
  unfold decimal
  rw [h]
  split <;> exact List.cons_ne_nil _ _

/-- Blanks around the text of an integer are all that is taken away. -/
theorem trimBlanks_decimal_padded {front back : List Char} (n : Int)
    (blank : ∀ c ∈ front, isBlank c = true) (blank' : ∀ c ∈ back, isBlank c = true) :
    trimBlanks (front ++ decimal n ++ back) = decimal n :=
  trimBlanks_padded blank blank' (fun _ mem => not_isBlank_of_mem_decimal mem) (decimal_ne_nil n)

/-- The text of an integer has no blanks at its ends. -/
theorem trimBlanks_decimal (n : Int) : trimBlanks (decimal n) = decimal n := by
  have alone := trimBlanks_decimal_padded n (List.forall_mem_nil _) (List.forall_mem_nil _)
  rwa [List.append_nil] at alone

/-- The text of an integer is no word that begins with a letter. -/
theorem isWord_decimal {word : String} {letter : Char} {rest : List Char}
    (hword : word.toList = letter :: rest) (hsign : letter ≠ '-')
    (hdigit : ∀ d < 10, (digitChar d).toLower ≠ letter) (n : Int) :
    isWord word (decimal n) = false := by
  obtain ⟨d, more, hd, h⟩ := digitsOf_eq_cons n.natAbs
  have hminus : '-'.toLower = '-' := by decide
  unfold isWord decimal
  split
  · simp [hword, hminus, hsign.symm]
  · simp [h, hword, hdigit d hd]

/-! ## 2. The readers -/

namespace IntType

/-- The 64-bit integer nearest to an integer. -/
def nearest64 (n : Int) : Int := max (-2 ^ 63) (min (2 ^ 63 - 1) n)

theorem contains_i64_iff {n : Int} : i64.contains n = true ↔ -2 ^ 63 ≤ n ∧ n ≤ 2 ^ 63 - 1 := by
  have hleast : i64.least = -2 ^ 63 := by decide
  have hgreatest : i64.greatest = 2 ^ 63 - 1 := by decide
  rw [contains_iff, hleast, hgreatest]

/-- Every integer of a type has few digits. -/
theorem length_digitsOf_le {t : IntType} {n : Int} (h : t.contains n = true) :
    (digitsOf n.natAbs).length ≤ 39 := by
  have hbounds := contains_iff.mp h
  have hranges : -2 ^ 127 ≤ t.least ∧ t.greatest ≤ 2 ^ 128 - 1 := by cases t <;> decide
  have hpow : 2 ^ 128 ≤ pow10 39 := by decide
  exact Graft.length_digitsOf_le (by decide) (by omega)

end IntType

namespace Stored

open IntType

/-- **As a text, an integer is its decimal text**, whichever way it is held. -/
theorem asString_toStored (n : Int) : (toStored n).asString = toString n := by
  by_cases h : i64.contains n = true
  · rw [toStored_of_contains h, asString, toInt_ofInt_of_contains h, ofList_decimal]
  · rw [toStored_of_not_contains h, asString, ofList_decimal]

/-- The text of an integer beyond 64 bits, read as an integer: the text is no 64-bit integer, so it
is read as a number, and that is cut down to the end of the range. -/
theorem integerOfText_decimal {n : Int} (h : ¬ i64.contains n = true)
    (hn : (digitsOf n.natAbs).length ≤ 400) :
    (integerOfText (decimal n)).toInt = nearest64 n := by
  have hfar := mt contains_i64_iff.mpr h
  have hlarge : 2 ^ 63 ≤ n.natAbs := by omega
  have hleast : i64.least = -2 ^ 63 := by decide
  have hgreatest : i64.greatest = 2 ^ 63 - 1 := by decide
  have hclamp : (Double.ofInt n).number.clamp i64.least i64.greatest =
      if n < 0 then i64.least else i64.greatest :=
    Double.clamp_ofInt_large (by decide) (by decide) hlarge (by decide) (by decide) (by decide)
  have hcontained : i64.contains (if n < 0 then i64.least else i64.greatest) = true := by
    split <;> decide
  unfold integerOfText
  rw [read?_decimal, fit?_of_not_contains h, Decimal.read?_decimal hn]
  simp only [Double.toInt64, hclamp]
  rw [toInt_ofInt_of_contains hcontained, hleast, hgreatest, nearest64]
  split <;> omega

/-- **As an integer, an integer is itself or the end of the 64 bits on its side.** -/
theorem asInteger_toStored {n : Int} (hn : (digitsOf n.natAbs).length ≤ 400) :
    (toStored n).asInteger.toInt = nearest64 n := by
  by_cases h : i64.contains n = true
  · have hbounds := contains_i64_iff.mp h
    rw [toStored_of_contains h, asInteger, toInt_ofInt_of_contains h, nearest64]
    omega
  · rw [toStored_of_not_contains h, asInteger, String.toList_ofList, trimBlanks_decimal,
      integerOfText_decimal h hn]

/-- **As a truth value, an integer is true if it is a 64-bit integer other than zero.** The text of
any other integer spells no 64-bit integer and no word. -/
theorem asBool_toStored (n : Int) :
    (toStored n).asBool = decide (n ≠ 0 ∧ i64.contains n = true) := by
  by_cases h : i64.contains n = true
  · have hzero : Int64.ofInt n = 0 ↔ n = 0 := by
      rw [← Int64.toInt_inj, toInt_ofInt_of_contains h]
      rfl
    rw [toStored_of_contains h, asBool, Bool.eq_iff_iff, bne_iff_ne, decide_eq_true_iff, ne_eq,
      hzero]
    exact ⟨fun hn => ⟨hn, h⟩, And.left⟩
  · have htrue : isWord "true" (decimal n) = false :=
      isWord_decimal rfl (by decide) (by decide) n
    have hyes : isWord "yes" (decimal n) = false := isWord_decimal rfl (by decide) (by decide) n
    rw [toStored_of_not_contains h, asBool, String.toList_ofList, trimBlanks_decimal, boolOfText,
      htrue, hyes, read?_decimal, fit?_of_not_contains h]
    simp [h]

end Stored

/-! ## 3. Through a store -/

/-- **The text and integer readers see the integer that was written.** The text is its decimal
text, and the integer is the 64-bit integer nearest to it: itself, or the end of the range. -/
theorem readers_see_integer (t : IntType) (x : IntOf t) (key : String) (s : Store) :
    (s.set key x).string key = some (toString x.val) ∧
      ((s.set key x).integer key).toInt = max (-2 ^ 63) (min (2 ^ 63 - 1) x.val) := by
  have hvalue : (s.set key x).value key = some (IntType.toStored x.val) :=
    Store.value_setValue_self s key _
  constructor
  · rw [Store.string, hvalue, Option.map_some, Stored.asString_toStored]
  · rw [Store.integer, hvalue]
    exact Stored.asInteger_toStored
      (Nat.le_trans (IntType.length_digitsOf_le x.property) (by decide))

/-- **The truth value reader tells zero from other integers exactly within 64 bits.** It answers
true for a 64-bit integer other than zero and false for everything else, so it is right about an
integer iff that is a 64-bit integer. -/
theorem bool_reader_exact (t : IntType) (x : IntOf t) (key : String) (s : Store) :
    ((s.set key x).bool key = true ↔ x.val ≠ 0 ∧ -2 ^ 63 ≤ x.val ∧ x.val ≤ 2 ^ 63 - 1) ∧
      (((s.set key x).bool key = true ↔ x.val ≠ 0) ↔
        -2 ^ 63 ≤ x.val ∧ x.val ≤ 2 ^ 63 - 1) := by
  have hvalue : (s.set key x).value key = some (IntType.toStored x.val) :=
    Store.value_setValue_self s key _
  have hbool : (s.set key x).bool key = true ↔
      x.val ≠ 0 ∧ -2 ^ 63 ≤ x.val ∧ x.val ≤ 2 ^ 63 - 1 := by
    rw [Store.bool, hvalue]
    dsimp only
    rw [Stored.asBool_toStored, decide_eq_true_iff, IntType.contains_i64_iff]
  refine ⟨hbool, ?_⟩
  rw [hbool]
  omega

/-- The least natural number that is no 64-bit integer, as a value of `u64`. -/
def firstBeyond : IntOf .u64 := ⟨2 ^ 63, by decide⟩

/-- A number that is not zero reads as false where it was written as a text. -/
theorem firstBeyond_reads_false :
    ¬ ∀ (t : IntType) (x : IntOf t) (key : String) (s : Store),
      (s.set key x).bool key = true ↔ x.val ≠ 0 := by
  intro h
  have htrue := (h .u64 firstBeyond "k" .empty).mpr (by decide)
  rw [Store.bool, Store.set, Store.value_setValue_self] at htrue
  have hfalse : (IntType.toStored (2 ^ 63)).asBool = false := by
    rw [Stored.asBool_toStored]
    decide
  exact Bool.false_ne_true (hfalse.symm.trans htrue)

end Graft
