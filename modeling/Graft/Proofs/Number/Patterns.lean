import Graft.Number.Binary
import Mathlib

/-!
# Bit patterns of finite numbers

A format holds the numbers m · 2^q whose m is not too long and whose q is in range, each under one
pattern, which is a sign and (q - least) · 2^fraction + m. Such a number is read from its pattern and
rounded to its pattern, so nothing is lost.

* `Format.ofScaled_scale`: rounding m · 2^q does not depend on how the number is written.
* `Format.Holds`: the numbers of a format, written so that m is as long as it may be;
  `Format.place`: the pattern of such a number.
* `Format.exists_holds`, `Format.decode_place`: every finite pattern is that of one of these
  numbers, and is read as that number.
* **`Format.ofScaled_of_holds`**: a number that a format holds is rounded to itself.
* **`Format.encode_decode`**: what was read from a pattern is written as this pattern.
-/

namespace Graft

namespace Binary

/-! ## 1. Rounding a fraction -/

theorem pow2_add (a b : Nat) : pow2 (a + b) = pow2 a * pow2 b := Nat.pow_add 2 a b

theorem log2_mul_pow2 {n : Nat} (hn : n ≠ 0) (k : Nat) : (n * pow2 k).log2 = n.log2 + k := by
  induction k with
  | zero => exact congrArg Nat.log2 (Nat.mul_one n)
  | succ k ih =>
    have hne : n * pow2 k ≠ 0 := Nat.mul_ne_zero hn (pow2_pos k).ne'
    rw [pow2_succ, Nat.mul_left_comm, Nat.log2_two_mul hne, ih, Nat.add_assoc]

/-- The leading bit of a fraction whose denominator is a power of two. -/
theorem floorLog_pow2 {n : Nat} (hn : n ≠ 0) (j : Nat) : floorLog n (pow2 j) = n.log2 - j := by
  have hlog : (pow2 j).log2 = j := Nat.log2_two_pow
  have hle : pow2 n.log2 ≤ n := Nat.log2_self_le hn
  unfold floorLog
  rw [hlog]
  dsimp only
  refine if_pos ?_
  split
  · rename_i hpos
    have hsplit : n.log2 = j + ((n.log2 : Int) - j).toNat := by omega
    rw [← pow2_add, ← hsplit]
    exact hle
  · rename_i hneg
    have hsplit : j = n.log2 + (-((n.log2 : Int) - j)).toNat := by omega
    calc pow2 j = pow2 n.log2 * pow2 (-((n.log2 : Int) - j)).toNat := by rw [← pow2_add, ← hsplit]
      _ ≤ n * pow2 (-((n.log2 : Int) - j)).toNat := Nat.mul_le_mul_right _ hle

theorem roundDiv_scale (num den : Nat) {c : Nat} (hc : 0 < c) :
    roundDiv (num * c) (den * c) = roundDiv num den := by
  have hlow : 2 * (num % den * c) < den * c ↔ 2 * (num % den) < den := by
    rw [← Nat.mul_assoc, Nat.mul_lt_mul_right hc]
  have hhigh : den * c < 2 * (num % den * c) ↔ den < 2 * (num % den) := by
    rw [← Nat.mul_assoc, Nat.mul_lt_mul_right hc]
  simp only [roundDiv, Nat.mul_div_mul_right num den hc, Nat.mul_mod_mul_right, hlow, hhigh]

theorem roundAt_scale (num den : Nat) (q : Int) {c : Nat} (hc : 0 < c) :
    roundAt (num * c) (den * c) q = roundAt num den q := by
  unfold roundAt
  split
  · rw [Nat.mul_right_comm den c, roundDiv_scale _ _ hc]
  · rw [Nat.mul_right_comm num c, roundDiv_scale _ _ hc]

/-- A whole number of units is rounded to itself. -/
theorem roundDiv_mul (m : Nat) {den : Nat} (hden : 0 < den) : roundDiv (m * den) den = m := by
  have hrest : 2 * (m * den % den) < den := by rw [Nat.mul_mod_left]; exact hden
  unfold roundDiv
  dsimp only
  rw [if_pos hrest, Nat.mul_div_cancel m hden]

namespace Format

variable (f : Format)

theorem ofRatio_scale (num j k : Nat) :
    f.ofRatio (num * pow2 k) (pow2 (j + k)) = f.ofRatio num (pow2 j) := by
  unfold ofRatio
  by_cases hnum : num = 0
  · rw [hnum, Nat.zero_mul]
    rfl
  · have hne : num * pow2 k ≠ 0 := Nat.mul_ne_zero hnum (pow2_pos k).ne'
    have hlog : ((num.log2 + k : Nat) : Int) - (j + k : Nat) = num.log2 - j := by omega
    simp only [beq_iff_eq, hnum, hne, if_false]
    rw [floorLog_pow2 hne, floorLog_pow2 hnum, log2_mul_pow2 hnum, hlog, pow2_add j k,
      roundAt_scale _ _ _ (pow2_pos k)]

/-- The number m · 2^q as a fraction, with any powers of two above and below. -/
theorem ofScaled_eq (m a j : Nat) :
    f.ofScaled m ((a : Int) - j) = f.ofRatio (m * pow2 a) (pow2 j) := by
  unfold ofScaled
  split
  · rename_i hpos
    obtain ⟨k, rfl⟩ : ∃ k, a = k + j := ⟨a - j, by omega⟩
    have hk : (((k + j : Nat) : Int) - j).toNat = k := by omega
    have hscale := f.ofRatio_scale (m * pow2 k) 0 j
    rw [Nat.zero_add, Nat.mul_assoc, ← pow2_add] at hscale
    rw [hk, hscale]
    rfl
  · rename_i hneg
    obtain ⟨k, rfl⟩ : ∃ k, j = k + a := ⟨j - a, by omega⟩
    have hk : (-((a : Int) - (k + a : Nat))).toNat = k := by omega
    rw [hk, ofRatio_scale]

/-- **Rounding does not depend on how a number is written.** -/
theorem ofScaled_scale (m k : Nat) (q : Int) :
    f.ofScaled (m * pow2 k) (q - k) = f.ofScaled m q := by
  obtain ⟨a, j, rfl⟩ : ∃ a j : Nat, q = a - j := ⟨q.toNat, (-q).toNat, by omega⟩
  have hshift : (a : Int) - j - k = a - (j + k : Nat) := by omega
  rw [hshift, ofScaled_eq, ofScaled_eq, Nat.mul_right_comm, ofRatio_scale]

/-! ## 2. Patterns -/

/-- The pattern of m · 2^q without its sign. An m with its leading bit carries into the exponent by
itself. -/
def place (m : Nat) (q : Int) : Nat := (q - f.least).toNat * pow2 f.fraction + m

/-- **The numbers of a format**: m · 2^q with an m that fits, as long as it may be. Only with the
least q may it be shorter. -/
structure Holds (m : Nat) (q : Int) : Prop where
  least_le : f.least ≤ q
  fits : m < 2 * pow2 f.fraction
  leading : f.least < q → pow2 f.fraction ≤ m
  finite : f.place m q < f.infinity

theorem signBit_eq : f.signBit = pow2 f.fraction * pow2 f.exponent := pow2_add _ _

theorem signed_lt (negative : Bool) {p : Nat} (hp : p < f.signBit) :
    f.signed negative p < 2 * f.signBit := by
  unfold signed
  split <;> omega

theorem infinity_lt_signBit : f.infinity < f.signBit := by
  rw [signBit_eq, infinity, Nat.mul_comm (pow2 f.fraction)]
  exact Nat.mul_lt_mul_of_pos_right (Nat.sub_lt (pow2_pos _) Nat.one_pos) (pow2_pos _)

variable {f} {p : Nat}

/-- What a pattern with a sign stands for, by the fields of the pattern without it. -/
theorem decode_signed (negative : Bool) (hp : p < f.signBit) :
    f.decode (f.signed negative p) =
      if p / pow2 f.fraction = pow2 f.exponent - 1 then
        if p % pow2 f.fraction = 0 then .infinite negative else .nan
      else if p / pow2 f.fraction = 0 then .finite negative (p % pow2 f.fraction) f.least
      else .finite negative (pow2 f.fraction + p % pow2 f.fraction)
        (f.least + (p / pow2 f.fraction - 1 : Nat)) := by
  have hsplit := f.signBit_eq
  have hpos := pow2_pos f.fraction
  have hexponent : p / pow2 f.fraction < pow2 f.exponent :=
    Nat.div_lt_of_lt_mul (hsplit ▸ hp)
  have hsign : (f.signed negative p / f.signBit % 2 == 1) = negative := by
    cases negative with
    | false => simp [signed, Nat.div_eq_of_lt hp]
    | true =>
      have hone : (f.signBit + p) / f.signBit = 1 := by
        rw [Nat.add_div_left _ (Nat.zero_lt_of_lt hp), Nat.div_eq_of_lt hp]
      simp [signed, hone]
  have hfield : f.signed negative p / pow2 f.fraction % pow2 f.exponent = p / pow2 f.fraction := by
    cases negative with
    | false => exact Nat.mod_eq_of_lt hexponent
    | true =>
      rw [signed, if_pos rfl, hsplit, Nat.mul_add_div hpos, Nat.add_mod_left]
      exact Nat.mod_eq_of_lt hexponent
  have hrest : f.signed negative p % pow2 f.fraction = p % pow2 f.fraction := by
    cases negative with
    | false => rfl
    | true => rw [signed, if_pos rfl, hsplit, Nat.mul_add_mod]
  simp only [decode, hsign, hfield, hrest, beq_iff_eq]

/-- Every pattern is one without a sign, with a sign. -/
theorem exists_signed {bits : Nat} (h : bits < 2 * f.signBit) :
    ∃ negative, ∃ p < f.signBit, bits = f.signed negative p := by
  by_cases hlow : bits < f.signBit
  · exact ⟨false, bits, hlow, rfl⟩
  · refine ⟨true, bits - f.signBit, by omega, ?_⟩
    rw [signed, if_pos rfl]
    omega

/-- **Every finite pattern is that of a number.** -/
theorem exists_holds (hp : p < f.infinity) : ∃ m q, f.Holds m q ∧ f.place m q = p := by
  have hpos := pow2_pos f.fraction
  have hrest := Nat.mod_lt p hpos
  by_cases hfield : p / pow2 f.fraction = 0
  · have hplace : f.place p f.least = p := by
      rw [place, Int.sub_self]
      exact (Nat.zero_mul _).symm ▸ Nat.zero_add p
    have hsmall : p < pow2 f.fraction := (Nat.div_eq_zero_iff_lt hpos).mp hfield
    exact ⟨p, f.least, ⟨Int.le_refl _, by omega, fun h => absurd h (Int.lt_irrefl _),
      by rw [hplace]; exact hp⟩, hplace⟩
  · obtain ⟨e, he⟩ := Nat.exists_eq_succ_of_ne_zero hfield
    have hexp : (f.least + (e : Int) - f.least).toNat = e := by omega
    have hplace : f.place (pow2 f.fraction + p % pow2 f.fraction) (f.least + e) = p := by
      calc f.place (pow2 f.fraction + p % pow2 f.fraction) (f.least + e)
          = e.succ * pow2 f.fraction + p % pow2 f.fraction := by
            rw [place, hexp, ← Nat.add_assoc, Nat.succ_mul]
        _ = p := by rw [← he, Nat.mul_comm, Nat.div_add_mod]
    exact ⟨_, _, ⟨by omega, by omega, fun _ => Nat.le_add_right _ _, by rw [hplace]; exact hp⟩,
      hplace⟩

variable {m : Nat} {q : Int}

/-- **The pattern of a number is read as this number.** -/
theorem decode_place (h : f.Holds m q) (negative : Bool) :
    f.decode (f.signed negative (f.place m q)) = .finite negative m q := by
  have hpos := pow2_pos f.fraction
  have hfinite := h.finite
  have hdiv : f.place m q / pow2 f.fraction = (q - f.least).toNat + m / pow2 f.fraction := by
    rw [place, Nat.mul_comm, Nat.mul_add_div hpos]
  have hmod : f.place m q % pow2 f.fraction = m % pow2 f.fraction := by
    rw [place, Nat.mul_comm, Nat.mul_add_mod]
  have hbelow : f.place m q / pow2 f.fraction ≠ pow2 f.exponent - 1 := by
    have := (Nat.div_lt_iff_lt_mul hpos).mpr hfinite
    omega
  rw [decode_signed negative (Nat.lt_trans hfinite f.infinity_lt_signBit), if_neg hbelow, hdiv, hmod]
  by_cases hlead : pow2 f.fraction ≤ m
  · -- the leading bit is the one that the exponent tells
    have hone : m / pow2 f.fraction = 1 :=
      Nat.div_eq_of_lt_le (by omega) (by have := h.fits; omega)
    have hm : pow2 f.fraction + m % pow2 f.fraction = m := by
      have := Nat.div_add_mod m (pow2 f.fraction)
      rw [hone, Nat.mul_one] at this
      exact this
    have hq : f.least + (((q - f.least).toNat + 1 - 1 : Nat) : Int) = q := by
      have := h.least_le
      omega
    rw [hone, if_neg (Nat.succ_ne_zero _), hm, hq]
  · have hq : q = f.least := by
      have := h.least_le
      have := mt h.leading hlead
      omega
    have hzero : m / pow2 f.fraction = 0 := Nat.div_eq_of_lt (by omega)
    rw [hzero, hq, Int.sub_self, Nat.mod_eq_of_lt (by omega)]
    rfl

theorem decode_infinity (f : Format) (negative : Bool) :
    f.decode (f.signed negative f.infinity) = .infinite negative := by
  have hfield : f.infinity / pow2 f.fraction = pow2 f.exponent - 1 :=
    Nat.mul_div_cancel _ (pow2_pos _)
  have hrest : f.infinity % pow2 f.fraction = 0 := Nat.mul_mod_left _ _
  rw [decode_signed negative f.infinity_lt_signBit, if_pos hfield, if_pos hrest]

/-- What is beyond the infinity is no number. -/
theorem decode_beyond (negative : Bool) (hp : p < f.signBit) (h : f.infinity < p) :
    f.decode (f.signed negative p) = .nan := by
  have hpos := pow2_pos f.fraction
  have hlt : p / pow2 f.fraction < pow2 f.exponent := Nat.div_lt_of_lt_mul (f.signBit_eq ▸ hp)
  have hge : pow2 f.exponent - 1 ≤ p / pow2 f.fraction :=
    (Nat.le_div_iff_mul_le hpos).mpr (Nat.le_of_lt h)
  have hfield : p / pow2 f.fraction = pow2 f.exponent - 1 := by omega
  have hrest : p % pow2 f.fraction ≠ 0 := by
    intro hzero
    have hp := Nat.div_add_mod p (pow2 f.fraction)
    rw [hzero, hfield, Nat.add_zero, Nat.mul_comm] at hp
    exact h.ne hp
  rw [decode_signed negative hp, if_pos hfield, if_neg hrest]

/-! ## 3. Exact rounding -/

/-- **A number that a format holds is rounded to itself.** Its leading bit is where the format wants
it, so one unit of rounding is one unit of m. -/
theorem ofScaled_of_holds (h : f.Holds m q) : f.ofScaled m q = f.place m q := by
  obtain ⟨a, j, rfl⟩ : ∃ a j : Nat, q = a - j := ⟨q.toNat, (-q).toNat, by omega⟩
  have hleast := h.least_le
  rw [ofScaled_eq]
  unfold ofRatio
  by_cases hm : m = 0
  · have hq : (a : Int) - j = f.least := by
      have := mt h.leading (by rw [hm]; exact Nat.not_le.mpr (pow2_pos _))
      omega
    simp [hm, place, hq]
  · have hlog : m.log2 ≤ f.fraction := by
      have hlt : m < pow2 (f.fraction + 1) := by
        rw [pow2_succ]
        exact h.fits
      exact Nat.le_of_lt_succ ((Nat.log2_lt hm).mpr hlt)
    have hlead : f.least < (a : Int) - j → f.fraction ≤ m.log2 :=
      fun hq => (Nat.le_log2 hm).mpr (h.leading hq)
    have hne : m * pow2 a ≠ 0 := Nat.mul_ne_zero hm (pow2_pos a).ne'
    have hunit : max f.least (floorLog (m * pow2 a) (pow2 j) - f.fraction) = (a : Int) - j := by
      rw [floorLog_pow2 hne, log2_mul_pow2 hm]
      omega
    have hexact : roundAt (m * pow2 a) (pow2 j) ((a : Int) - j) = m := by
      unfold roundAt
      split
      · have hsplit : a = j + ((a : Int) - j).toNat := by omega
        rw [← pow2_add, ← hsplit, roundDiv_mul m (pow2_pos a)]
      · have hsplit : j = a + (-((a : Int) - j)).toNat := by omega
        rw [Nat.mul_assoc, ← pow2_add, ← hsplit, roundDiv_mul m (pow2_pos j)]
    simp only [beq_iff_eq, hne, if_false]
    rw [hunit, hexact]
    exact Nat.min_eq_left (Nat.le_of_lt h.finite)

theorem encode_finite (h : f.Holds m q) (negative : Bool) :
    f.encode (.finite negative m q) = f.signed negative (f.place m q) :=
  congrArg (f.signed negative) (ofScaled_of_holds h)

/-- A pattern is that of no number, of an infinity, or of a number that the format holds. -/
theorem pattern_cases {bits : Nat} (hbits : bits < 2 * f.signBit) :
    f.decode bits = .nan ∨ (∃ negative, bits = f.signed negative f.infinity) ∨
      ∃ negative m q, f.Holds m q ∧ bits = f.signed negative (f.place m q) := by
  obtain ⟨negative, p, hp, rfl⟩ := exists_signed hbits
  rcases Nat.lt_trichotomy p f.infinity with hlt | rfl | hgt
  · obtain ⟨m, q, holds, rfl⟩ := exists_holds hlt
    exact .inr (.inr ⟨negative, m, q, holds, rfl⟩)
  · exact .inr (.inl ⟨negative, rfl⟩)
  · exact .inl (decode_beyond negative hp hgt)

/-- **What was read from a pattern is written as this pattern**, if it is a number. -/
theorem encode_decode {bits : Nat} (hbits : bits < 2 * f.signBit) (h : f.decode bits ≠ .nan) :
    f.encode (f.decode bits) = bits := by
  rcases pattern_cases hbits with hnan | ⟨negative, rfl⟩ | ⟨negative, m, q, holds, rfl⟩
  · exact absurd hnan h
  · rw [decode_infinity]
    rfl
  · rw [decode_place holds, encode_finite holds]

end Format

end Binary

open Binary in
/-- A pattern that has 64 bits is read as it is. -/
theorem Double.number_signed (negative : Bool) {p : Nat} (hp : p < double.signBit) :
    Double.number (BitVec.ofNat 64 (double.signed negative p)) =
      double.decode (double.signed negative p) := by
  have hlt : double.signed negative p < 2 ^ 64 := double.signed_lt negative hp
  rw [number, BitVec.toNat_ofNat, Nat.mod_eq_of_lt hlt]

end Graft
