import Graft.Number.Integer

/-!
# Decimal texts are read back

`decimal` writes an integer and `IntType.read?` reads one; here the two meet.

* `natural?_digitsOf`: the digits of a natural number spell it.
* **`IntType.read?_decimal`**: the text of an integer is read back by exactly the types that have
  the integer among their values.
* `ofList_decimal`: the text is the one in which integers are usually shown.
* `exists_digit_of_mem`, `length_digitsOf_le`: which characters the text has, and how many.
-/

namespace Graft

/-! ## 1. Digits -/

theorem digitValue?_digitChar {d : Nat} (hd : d < 10) : digitValue? (digitChar d) = some d := by
  have all : ∀ d < 10, digitValue? (digitChar d) = some d := by decide
  exact all d hd

theorem digitChar_ne {d : Nat} (hd : d < 10) : digitChar d ≠ '+' ∧ digitChar d ≠ '-' := by
  have all : ∀ d < 10, digitChar d ≠ '+' ∧ digitChar d ≠ '-' := by decide
  exact all d hd

/-- Reading digits in two parts: the value of the first part stands in front of the second. -/
theorem digitsValue?_append (v : Nat) (xs ys : List Char) :
    digitsValue? v (xs ++ ys) = (digitsValue? v xs).bind fun w => digitsValue? w ys := by
  induction xs generalizing v with
  | nil => rfl
  | cons c rest ih =>
    rw [List.cons_append, digitsValue?, digitsValue?]
    cases digitValue? c with
    | none => rfl
    | some d => exact ih (v * 10 + d)

theorem digitsValue?_digit (v : Nat) {d : Nat} (hd : d < 10) :
    digitsValue? v [digitChar d] = some (v * 10 + d) := by
  rw [digitsValue?, digitValue?_digitChar hd]
  rfl

theorem digitsValue?_digitsOf (n : Nat) : digitsValue? 0 (digitsOf n) = some n := by
  rw [digitsOf]
  split
  · rename_i hn
    rw [digitsValue?_digit 0 hn, Nat.zero_mul, Nat.zero_add]
  · have hlast : n % 10 < 10 := Nat.mod_lt n (by decide)
    rw [digitsValue?_append, digitsValue?_digitsOf (n / 10), Option.bind_some,
      digitsValue?_digit _ hlast, Nat.div_add_mod']
termination_by n
decreasing_by omega

/-- A number begins with a digit. -/
theorem digitsOf_eq_cons (n : Nat) : ∃ d rest, d < 10 ∧ digitsOf n = digitChar d :: rest := by
  rw [digitsOf]
  split
  · rename_i hn
    exact ⟨n, [], hn, rfl⟩
  · obtain ⟨d, rest, hd, h⟩ := digitsOf_eq_cons (n / 10)
    exact ⟨d, rest ++ [digitChar (n % 10)], hd, by rw [h]; rfl⟩
termination_by n
decreasing_by omega

theorem natural?_digitsOf (n : Nat) : natural? (digitsOf n) = some n := by
  obtain ⟨d, rest, _, h⟩ := digitsOf_eq_cons n
  have hne : (digitsOf n).isEmpty = false := by rw [h]; rfl
  rw [natural?, hne]
  exact digitsValue?_digitsOf n

/-! ## 2. Integers -/

namespace IntType

theorem contains_iff {t : IntType} {n : Int} :
    t.contains n = true ↔ t.least ≤ n ∧ n ≤ t.greatest := decide_eq_true_iff

theorem fit?_of_contains {t : IntType} {n : Int} (h : t.contains n = true) : t.fit? n = some n :=
  if_pos h

theorem fit?_of_not_contains {t : IntType} {n : Int} (h : ¬ t.contains n = true) :
    t.fit? n = none := if_neg h

/-- A type without a sign has no negative values. -/
theorem fit?_of_neg {t : IntType} {n : Int} (hs : ¬ t.signed = true) (hn : n < 0) :
    t.fit? n = none := by
  apply fit?_of_not_contains
  intro h
  have hleast : t.least = 0 := if_neg hs
  have := (contains_iff.mp h).1
  omega

/-- Digits are read as the number that they spell: neither sign is a digit. -/
theorem read?_digitsOf (t : IntType) (n : Nat) : t.read? (digitsOf n) = t.fit? n := by
  obtain ⟨d, rest, hd, h⟩ := digitsOf_eq_cons n
  obtain ⟨hplus, hminus⟩ := digitChar_ne hd
  have hread : t.read? (digitsOf n) = (natural? (digitsOf n)).bind fun n => t.fit? n := by
    rw [h]
    exact read?.eq_3 t _ (fun _ e => hplus (List.cons.inj e).1)
      (fun _ e => hminus (List.cons.inj e).1)
  rw [hread, natural?_digitsOf]
  rfl

/-- **The text of an integer is read back**, by exactly the types that have it as a value. -/
theorem read?_decimal (t : IntType) (n : Int) : t.read? (decimal n) = t.fit? n := by
  unfold decimal
  split
  · rename_i hn
    rw [read?]
    split
    · have hback : -(n.natAbs : Int) = n := by omega
      rw [natural?_digitsOf, Option.bind_some, hback]
    · rename_i hs
      exact (fit?_of_neg hs hn).symm
  · have hback : (n.natAbs : Int) = n := by omega
    rw [read?_digitsOf, hback]

end IntType

/-! ## 3. The characters of a text -/

theorem digitsOf_eq_toDigits (n : Nat) : digitsOf n = Nat.toDigits 10 n := by
  have hdigit : ∀ d < 10, digitChar d = d.digitChar := by decide
  rw [digitsOf, Nat.toDigits_eq_if (by decide)]
  split
  · rename_i hn
    rw [hdigit n hn]
  · rw [digitsOf_eq_toDigits (n / 10), hdigit _ (Nat.mod_lt n (by decide))]
termination_by n
decreasing_by omega

/-- **The decimal text of an integer is the usual one.** -/
theorem ofList_decimal (n : Int) : String.ofList (decimal n) = toString n := by
  apply String.toList_inj.mp
  rw [String.toList_ofList, Int.toString_eq_repr, Int.repr_eq_if]
  unfold decimal
  by_cases hn : n < 0
  · have habs : (-n).toNat = n.natAbs := by omega
    rw [if_pos hn, if_neg (by omega), String.toList_append, Nat.toList_repr, habs,
      digitsOf_eq_toDigits]
    rfl
  · have habs : n.toNat = n.natAbs := by omega
    rw [if_neg hn, if_pos (by omega), Nat.toList_repr, habs, digitsOf_eq_toDigits]

theorem exists_digit_of_mem {n : Nat} {c : Char} (h : c ∈ digitsOf n) :
    ∃ d < 10, c = digitChar d := by
  rw [digitsOf] at h
  split at h
  · rename_i hn
    exact ⟨n, hn, List.mem_singleton.mp h⟩
  · rcases List.mem_append.mp h with h | h
    · exact exists_digit_of_mem h
    · exact ⟨n % 10, Nat.mod_lt n (by decide), List.mem_singleton.mp h⟩
termination_by n
decreasing_by omega

/-- A number below a power of ten has no more digits than the power has zeros. -/
theorem length_digitsOf_le {n k : Nat} (hk : 0 < k) (hn : n < pow10 k) :
    (digitsOf n).length ≤ k := by
  induction k generalizing n with
  | zero => omega
  | succ k ih =>
    rw [digitsOf]
    split
    · exact Nat.le_add_left 1 k
    · rename_i hlarge
      have hstep : pow10 (k + 1) = 10 * pow10 k := Nat.pow_succ'
      have hk0 : 0 < k := by
        rcases Nat.eq_zero_or_pos k with rfl | hk0
        · exact absurd hn hlarge
        · exact hk0
      have hrest := ih hk0 (n := n / 10) (by omega)
      rw [List.length_append, List.length_singleton]
      omega

end Graft
