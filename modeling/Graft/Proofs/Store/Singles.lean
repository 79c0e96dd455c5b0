import Graft.Proofs.Number.Patterns
import Graft.Proofs.Store.Keys

/-!
# Numbers of 32 bits in a store

A number of 32 bits is kept with 64, where it has more room: what is too small for a leading bit
with 32 bits has one with 64, and loses it again on its way back.

* `Single.holds_widened`: with 64 bits every number of 32 bits can be written with a leading bit.
* **`Single.number_widen`**: widening keeps the value of a number.
* **`Single.narrow_widen`**: narrowing takes back what widening did.
* **`singles_survive`**: what is written as a number of 32 bits is read back as it was.
-/

namespace Graft

open Binary

/-! ## 1. More room -/

namespace Single

/-- **With 64 bits there is room for a leading bit**, even if there was none with 32. -/
theorem holds_widened {m : Nat} {q : Int} (h : single.Holds m q) :
    ∃ k : Nat, double.Holds (m * pow2 k) (q - k) := by
  have hleast : single.least = -149 := by decide
  have hleast' : double.least = -1074 := by decide
  have hunit : pow2 single.fraction = 2 ^ 23 := rfl
  have hunit' : pow2 double.fraction = 2 ^ 52 := rfl
  have hinfinity : single.infinity = 255 * 2 ^ 23 := by decide
  have hinfinity' : double.infinity = 2047 * 2 ^ 52 := by decide
  obtain ⟨low, fits, -, finite⟩ := h
  rw [Format.place, hleast, hunit, hinfinity] at finite
  rw [hleast] at low
  rw [hunit] at fits
  by_cases hm : m = 0
  · have hq : q - (q + 1074).toNat = double.least := by omega
    refine ⟨(q + 1074).toNat, ?_⟩
    rw [hq, hm, Nat.zero_mul]
    exact ⟨Int.le_refl _, by decide, fun h => absurd h (Int.lt_irrefl _), by decide⟩
  · have hlog : m.log2 ≤ 23 := Nat.le_of_lt_succ ((Nat.log2_lt hm).mpr fits)
    have hlead : 2 ^ 52 ≤ m * pow2 (52 - m.log2) := by
      calc 2 ^ 52 = 2 ^ (m.log2 + (52 - m.log2)) := by rw [Nat.add_sub_cancel' (by omega)]
        _ = 2 ^ m.log2 * pow2 (52 - m.log2) := pow2_add _ _
        _ ≤ m * pow2 (52 - m.log2) := Nat.mul_le_mul_right _ (Nat.log2_self_le hm)
    have hfits : m * pow2 (52 - m.log2) < 2 * 2 ^ 52 := by
      calc m * pow2 (52 - m.log2) < 2 ^ (m.log2 + 1) * pow2 (52 - m.log2) :=
            Nat.mul_lt_mul_of_pos_right Nat.lt_log2_self (pow2_pos _)
        _ = 2 ^ (m.log2 + 1 + (52 - m.log2)) := (pow2_add _ _).symm
        _ = 2 * 2 ^ 52 := by rw [Nat.add_right_comm, Nat.add_sub_cancel' (by omega)]; rfl
    refine ⟨52 - m.log2, by omega, ?_, fun _ => ?_, ?_⟩
    · rw [hunit']
      exact hfits
    · rw [hunit']
      exact hlead
    · have hexp : (q - (52 - m.log2 : Nat) - double.least).toNat ≤ 2044 := by omega
      rw [Format.place, hunit', hinfinity']
      calc _ < 2044 * 2 ^ 52 + 2 * 2 ^ 52 :=
            Nat.add_lt_add_of_le_of_lt (Nat.mul_le_mul_right _ hexp) hfits
        _ ≤ 2047 * 2 ^ 52 := by decide

/-- A number of 32 bits has a pattern of 32 bits. -/
theorem toNat_lt (x : Single) : x.toNat < 2 * single.signBit := x.isLt

/-- **Widening keeps the value of a number.** It is written with a longer m, if there is any. -/
theorem number_widen {x : Single} {negative : Bool} {m : Nat} {q : Int} (h : single.Holds m q)
    (hx : x.number = .finite negative m q) :
    ∃ k : Nat, x.widen.number = .finite negative (m * pow2 k) (q - k) := by
  obtain ⟨k, holds⟩ := holds_widened h
  have hplace := Nat.lt_trans holds.finite double.infinity_lt_signBit
  have hwiden : x.widen =
      BitVec.ofNat 64 (double.signed negative (double.place (m * pow2 k) (q - k))) := by
    have hencode : double.encode (.finite negative m q) =
        double.signed negative (double.ofScaled m q) := rfl
    rw [widen, hx, Double.ofNumber, hencode, ← double.ofScaled_scale m k,
      Format.ofScaled_of_holds holds]
  exact ⟨k, by rw [hwiden, Double.number_signed negative hplace, Format.decode_place holds]⟩

-- The least positive number of 32 bits, 2^-149, has a leading bit with 64.
example : Single.widen 1 = 0x36A0000000000000 := by decide

theorem number_widen_infinite {x : Single} {negative : Bool} (hx : x.number = .infinite negative) :
    x.widen.number = .infinite negative := by
  have hwiden : x.widen = BitVec.ofNat 64 (double.signed negative double.infinity) := by
    rw [widen, hx]
    rfl
  rw [hwiden, Double.number_signed negative double.infinity_lt_signBit, Format.decode_infinity]

/-! ## 2. There and back -/

/-- With 32 bits, a number and the widened number are written alike. -/
theorem encode_number_widen {x : Single} (h : x.number ≠ .nan) :
    single.encode x.widen.number = single.encode x.number := by
  rcases Format.pattern_cases x.toNat_lt with hnan | ⟨negative, hx⟩ | ⟨negative, m, q, holds, hx⟩
  · exact absurd hnan h
  · have hnumber : x.number = .infinite negative := by
      rw [number, hx, Format.decode_infinity]
    rw [number_widen_infinite hnumber, hnumber]
  · have hnumber : x.number = .finite negative m q := by
      rw [number, hx, Format.decode_place holds]
    obtain ⟨k, hwidened⟩ := number_widen holds hnumber
    rw [hwidened, hnumber]
    exact congrArg (single.signed negative) (single.ofScaled_scale m k q)

/-- **Narrowing takes back what widening did**, bit by bit. -/
theorem narrow_widen {x : Single} (h : x.number ≠ .nan) : x.widen.narrow = x := by
  have hback : single.encode x.number = x.toNat := Format.encode_decode x.toNat_lt h
  rw [Double.narrow, ofNumber, encode_number_widen h, hback, BitVec.ofNat_toNat, BitVec.setWidth_eq]

/-- What is no number stays none. -/
theorem narrow_widen_nan {x : Single} (h : x.number = .nan) : x.widen.narrow.number = .nan := by
  have hnan : (Double.narrow (Double.ofNumber .nan)).number = .nan := by decide
  rw [widen, h, hnan]

end Single

/-! ## 3. Through a store -/

/-- **Numbers of 32 bits survive.** What is written as such a number is read back with the same
bits, be it a zero of either sign, too small for a leading bit, or an infinity; and what is no number
is read back as none. -/
theorem singles_survive (x : Single) (key : String) (s : Store) :
    ∃ y : Single, (s.set key x).get Single key = some y ∧
      if x.number = .nan then y.number = .nan else y = x := by
  refine ⟨x.widen.narrow, by rw [Store.get_set]; rfl, ?_⟩
  split
  · rename_i h
    exact Single.narrow_widen_nan h
  · rename_i h
    exact Single.narrow_widen h

end Graft
