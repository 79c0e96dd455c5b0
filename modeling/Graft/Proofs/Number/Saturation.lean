import Graft.Proofs.Number.DecimalText
import Graft.Proofs.Number.Patterns
import Graft.Number.Decimal
import Mathlib

/-!
# Integers as binary numbers

The text of an integer can be read as a binary number, which keeps the integer only as nearly as a
fraction of 52 bits allows. What is lost is never the leading bit, so an integer beyond a power of
two is still beyond it as a number.

* `Decimal.read?_decimal`: the text of an integer is read as the number nearest to the integer.
* `powerPattern_le_ofRatio`: rounding a whole number does not fall below a power of two that the
  number reaches.
* `decode_large`: what a pattern beyond that of a power of two stands for.
* **`Double.clamp_ofInt_large`**: a large integer, taken as a number and cut down to a range, is
  the end of the range on its side.
-/

namespace Graft

/-! ## 1. The text of an integer, read as a number -/

open Binary in
/-- The pattern of an integer is that of its size, with its sign. -/
theorem Double.ofInt_eq (n : Int) : Double.ofInt n =
    BitVec.ofNat 64 (double.signed (decide (n < 0)) (double.ofRatio n.natAbs 1)) := by
  have hone : n.natAbs * pow2 (0 : Int).toNat = n.natAbs := Nat.mul_one _
  show BitVec.ofNat 64 (double.signed _ (double.ofScaled n.natAbs 0)) = _
  rw [Format.ofScaled, if_pos (Int.le_refl 0), hone]

namespace Decimal

open Binary

theorem spanDigits_digitsOf (n : Nat) : spanDigits (digitsOf n) = (digitsOf n, []) := by
  have hall : ∀ c ∈ digitsOf n, (digitValue? c).isSome = true := by
    intro c hc
    obtain ⟨d, hd, rfl⟩ := exists_digit_of_mem hc
    rw [digitValue?_digitChar hd]
    rfl
  unfold spanDigits
  rw [List.takeWhile_eq_self_iff.mpr hall, List.dropWhile_eq_nil_iff.mpr hall]

theorem numeral?_digitsOf (n : Nat) : numeral? (digitsOf n) = some ⟨n, 0⟩ := by
  unfold numeral?
  rw [spanDigits_digitsOf]
  simp only [List.append_nil, natural?_digitsOf, exponent?, List.length_nil]
  rfl

/-- A number is none of the words, which begin with letters. -/
theorem special?_digitsOf (n : Nat) : special? (digitsOf n) = none := by
  obtain ⟨d, rest, hd, h⟩ := digitsOf_eq_cons n
  have hletters : ∀ d < 10, (digitChar d).toLower ≠ 'i' ∧ (digitChar d).toLower ≠ 'n' := by decide
  obtain ⟨hi, hn⟩ := hletters d hd
  have hinf : "inf".toList = ['i', 'n', 'f'] := rfl
  have hinfinity : "infinity".toList = ['i', 'n', 'f', 'i', 'n', 'i', 't', 'y'] := rfl
  have hnan : "nan".toList = ['n', 'a', 'n'] := rfl
  simp [special?, h, hinf, hinfinity, hnan, hi, hn]

/-- Digits that are not too many are rounded as the whole number they spell. -/
theorem Numeral.round_natural {n : Nat} (hn : (digitsOf n).length ≤ 400) :
    Numeral.round ⟨n, 0⟩ = double.ofRatio n 1 := by
  have hleading : ¬ ((digitsOf n).length : Int) + 0 > 400 := by omega
  have hnear : ¬ ((digitsOf n).length : Int) + 0 < -400 := by omega
  have hone : n * pow10 (0 : Int).toNat = n := Nat.mul_one n
  unfold Numeral.round
  simp only [hleading, hnear, if_false, hone]
  by_cases h0 : n = 0
  · rw [h0]
    rfl
  · simp [h0]

theorem magnitude?_digitsOf {n : Nat} (hn : (digitsOf n).length ≤ 400) :
    magnitude? (digitsOf n) = some (double.ofRatio n 1) := by
  unfold magnitude?
  rw [special?_digitsOf, numeral?_digitsOf, Option.map_some, Numeral.round_natural hn]

/-- **The text of an integer is read as the number nearest to the integer.** -/
theorem read?_decimal {n : Int} (hn : (digitsOf n.natAbs).length ≤ 400) :
    read? (decimal n) = some (Double.ofInt n) := by
  rw [Double.ofInt_eq]
  by_cases hneg : n < 0
  · have hread : read? (decimal n) =
        ((magnitude? (digitsOf n.natAbs)).map (double.signed true)).map (BitVec.ofNat 64) := by
      rw [decimal, if_pos hneg]
      rfl
    rw [hread, magnitude?_digitsOf hn, decide_eq_true hneg, Option.map_some, Option.map_some]
  · obtain ⟨d, rest, hd, h⟩ := digitsOf_eq_cons n.natAbs
    obtain ⟨hplus, hminus⟩ := digitChar_ne hd
    have hread : read? (decimal n) =
        (magnitude? (digitsOf n.natAbs)).map (BitVec.ofNat 64) := by
      rw [decimal, if_neg hneg, h]
      unfold read?
      split
      · rename_i e
        exact absurd (List.cons.inj e).1 hplus
      · rename_i e
        exact absurd (List.cons.inj e).1 hminus
      · rfl
    have hplain : double.signed false (double.ofRatio n.natAbs 1) = double.ofRatio n.natAbs 1 :=
      if_neg Bool.false_ne_true
    rw [hread, magnitude?_digitsOf hn, decide_eq_false hneg, Option.map_some, hplain]

end Decimal

/-! ## 2. The pattern of a large number -/

namespace Binary

theorem le_roundDiv (num den : Nat) : num / den ≤ roundDiv num den := by
  unfold roundDiv
  dsimp only
  split
  · exact Nat.le_refl _
  · split
    · exact Nat.le_succ _
    · exact Nat.le_add_right _ _

theorem floorLog_whole {n : Nat} (hn : n ≠ 0) : floorLog n 1 = n.log2 :=
  (floorLog_pow2 hn 0).trans (Int.sub_zero _)

/-- The pattern of a power of two. -/
def powerPattern (k : Nat) : Nat := (k + 1023) * 2 ^ 52

/-- **A whole number has at least the pattern of every power of two that it reaches.** Its
fraction has its leading bit at its place, and rounding takes nothing away from it. -/
theorem powerPattern_le_ofRatio {n k : Nat} (h₁ : 52 ≤ k) (h₂ : k ≤ 1023) (hn : 2 ^ k ≤ n) :
    powerPattern k ≤ double.ofRatio n 1 := by
  have hpos : n ≠ 0 := by
    have := Nat.two_pow_pos k
    omega
  have hlog : k ≤ n.log2 := (Nat.le_log2 hpos).mpr hn
  have hleast : double.least = -1074 := by decide
  have hinfinity : double.infinity = 2047 * 2 ^ 52 := by decide
  -- one unit of the fraction is a power of two that is no less than one
  obtain ⟨s, hs⟩ : ∃ s, n.log2 = s + 52 := ⟨n.log2 - 52, by omega⟩
  have hq : max double.least (floorLog n 1 - (double.fraction : Int)) = (s : Int) := by
    rw [floorLog_whole hpos, hleast, hs]
    show max (-1074) (((s + 52 : Nat) : Int) - 52) = _
    omega
  have hround : 2 ^ 52 ≤ roundAt n 1 s := by
    have hle : 2 ^ 52 ≤ n / 2 ^ s := by
      rw [Nat.le_div_iff_mul_le (Nat.two_pow_pos s), ← Nat.pow_add, Nat.add_comm, ← hs]
      exact Nat.log2_self_le hpos
    rw [roundAt, if_pos (Int.natCast_nonneg s), Nat.one_mul]
    exact Nat.le_trans hle (le_roundDiv n (2 ^ s))
  have hexp : ((s : Int) - double.least).toNat = s + 1074 := by rw [hleast]; omega
  have hfraction : pow2 double.fraction = 2 ^ 52 := rfl
  unfold Format.ofRatio
  simp only [beq_iff_eq, hpos, if_false, hq, hexp, hfraction, hinfinity, powerPattern]
  refine Nat.le_min.mpr ⟨?_, ?_⟩
  · calc (k + 1023) * 2 ^ 52 ≤ (s + 1074 + 1) * 2 ^ 52 := Nat.mul_le_mul_right _ (by omega)
      _ = (s + 1074) * 2 ^ 52 + 2 ^ 52 := Nat.succ_mul _ _
      _ ≤ (s + 1074) * 2 ^ 52 + roundAt n 1 s := Nat.add_le_add_left hround _
  · exact Nat.mul_le_mul_right _ (by omega)

theorem ofRatio_le_infinity (f : Format) (num den : Nat) : f.ofRatio num den ≤ f.infinity := by
  unfold Format.ofRatio
  split
  · exact Nat.zero_le _
  · exact Nat.min_le_right _ _

/-! ## 3. Its value -/

/-- What a pattern from that of a power of two up to the infinity stands for: the infinity, or a
number that is no less than the power. -/
theorem decode_large (negative : Bool) {bits k : Nat} (hk : 52 ≤ k)
    (hle : powerPattern k ≤ bits) (hinf : bits ≤ double.infinity) :
    double.decode (double.signed negative bits) = .infinite negative ∨
      ∃ m q, double.decode (double.signed negative bits) = .finite negative m q ∧
        2 ^ k ≤ Number.integerPart m q := by
  have hinfinity : double.infinity = 2047 * 2 ^ 52 := by decide
  have hbits := Nat.lt_of_le_of_lt hinf double.infinity_lt_signBit
  rw [hinfinity] at hinf
  unfold powerPattern at hle
  have hexponent : pow2 double.exponent = 2 ^ 11 := rfl
  have hfraction : pow2 double.fraction = 2 ^ 52 := rfl
  have hleast : double.least = -1074 := by decide
  rw [Format.decode_signed negative hbits, hexponent, hfraction]
  by_cases htop : bits / 2 ^ 52 = 2 ^ 11 - 1
  · left
    rw [if_pos htop, if_pos (by omega)]
  · right
    rw [if_neg htop, if_neg (by omega)]
    refine ⟨_, _, rfl, ?_⟩
    obtain ⟨s, hs⟩ : ∃ s, bits / 2 ^ 52 = s + 1075 := ⟨bits / 2 ^ 52 - 1075, by omega⟩
    have hq : double.least + ((bits / 2 ^ 52 - 1 : Nat) : Int) = s := by
      rw [hleast, hs]
      omega
    rw [hq, Number.integerPart, if_pos (Int.natCast_nonneg s), Int.toNat_natCast]
    calc 2 ^ k ≤ 2 ^ (52 + s) := Nat.pow_le_pow_right (by decide) (by omega)
      _ = 2 ^ 52 * 2 ^ s := Nat.pow_add 2 52 s
      _ ≤ (2 ^ 52 + bits % 2 ^ 52) * 2 ^ s := Nat.mul_le_mul_right _ (Nat.le_add_right _ _)

end Binary

/-! ## 4. The ends of a range -/

namespace Double

open Binary

theorem number_ofInt (n : Int) : (Double.ofInt n).number =
    double.decode (double.signed (decide (n < 0)) (double.ofRatio n.natAbs 1)) := by
  have hle := ofRatio_le_infinity double n.natAbs 1
  rw [ofInt_eq, number_signed _ (Nat.lt_of_le_of_lt hle double.infinity_lt_signBit)]

/-- **A large integer, taken as a number, is cut down to the end of a range** that lies on its
side. -/
theorem clamp_ofInt_large {n least greatest : Int} {k : Nat} (h₁ : 52 ≤ k) (h₂ : k ≤ 1023)
    (hn : 2 ^ k ≤ n.natAbs) (hleast : -(2 ^ k : Nat) ≤ least) (hrange : least ≤ greatest)
    (hgreatest : greatest ≤ (2 ^ k : Nat)) :
    (Double.ofInt n).number.clamp least greatest = if n < 0 then least else greatest := by
  rw [number_ofInt]
  rcases decode_large (decide (n < 0)) h₁ (powerPattern_le_ofRatio h₁ h₂ hn)
    (ofRatio_le_infinity _ _ _) with h | ⟨m, q, h, hm⟩
  · rw [h]
    simp only [Number.clamp, decide_eq_true_eq]
  · rw [h]
    simp only [Number.clamp, decide_eq_true_eq]
    split <;> omega

end Double

end Graft
