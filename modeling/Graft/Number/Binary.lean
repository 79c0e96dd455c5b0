import Graft.Number.Power

/-!
# Binary floating point

Numbers of the form ±m · 2^q as bit patterns: a sign, an exponent and a fraction.

* `Binary.Format`: how many bits the exponent and the fraction have.
* `Binary.Number`: what a bit pattern stands for; `Format.decode` reads one.
* `Format.ofRatio`: the pattern of the number nearest to a fraction, a tie going to the even
  pattern. `Format.encode` writes a number in another format with it.

All arithmetic is on integers, so that it is exact.
-/

namespace Graft.Binary

/-! ## 1. Formats -/

/-- A binary format. -/
structure Format where
  /-- The bits of the fraction. -/
  fraction : Nat
  /-- The bits of the exponent. -/
  exponent : Nat
deriving DecidableEq, Repr

/-- The format of 64 bits. -/
def double : Format := ⟨52, 11⟩

/-- The format of 32 bits. -/
def single : Format := ⟨23, 8⟩

/-- What a bit pattern stands for. -/
inductive Number where
  | nan
  | infinite (negative : Bool)
  /-- The number ±m · 2^q. -/
  | finite (negative : Bool) (m : Nat) (q : Int)
deriving DecidableEq, Repr, Inhabited

namespace Format

/-- The exponent `q` of the least positive number. -/
def least (f : Format) : Int := 2 - pow2 (f.exponent - 1) - f.fraction

/-- The pattern of the positive infinity. -/
def infinity (f : Format) : Nat := (pow2 f.exponent - 1) * pow2 f.fraction

/-- A pattern that stands for no number. -/
def nan (f : Format) : Nat := f.infinity + pow2 (f.fraction - 1)

/-- The sign bit, as a pattern. -/
def signBit (f : Format) : Nat := pow2 (f.fraction + f.exponent)

/-- What a bit pattern stands for. -/
def decode (f : Format) (bits : Nat) : Number :=
  let negative := bits / f.signBit % 2 == 1
  let e := bits / pow2 f.fraction % pow2 f.exponent
  let m := bits % pow2 f.fraction
  if e == pow2 f.exponent - 1 then if m == 0 then .infinite negative else .nan
  else if e == 0 then .finite negative m f.least
  else .finite negative (pow2 f.fraction + m) (f.least + (e - 1 : Nat))

end Format

/-! ## 2. Rounding -/

/-- The quotient rounded to the nearest integer, a tie to the even one. -/
def roundDiv (num den : Nat) : Nat :=
  let q := num / den
  let r := num % den
  if 2 * r < den then q
  else if den < 2 * r then q + 1
  else q + q % 2

/-- The exponent of the greatest power of two that is at most `num / den`. -/
def floorLog (num den : Nat) : Int :=
  let e : Int := (num.log2 : Int) - den.log2
  let fits := if 0 ≤ e then den * pow2 e.toNat ≤ num else den ≤ num * pow2 (-e).toNat
  if fits then e else e - 1

/-- The quotient `num / den` in units of 2^q, rounded. -/
def roundAt (num den : Nat) (q : Int) : Nat :=
  if 0 ≤ q then roundDiv num (den * pow2 q.toNat) else roundDiv (num * pow2 (-q).toNat) den

namespace Format

/-- The pattern of the number nearest to `num / den`. A number in units of 2^q that has outgrown the
fraction by rounding carries into the exponent by itself. -/
def ofRatio (f : Format) (num den : Nat) : Nat :=
  if num == 0 then 0
  else
    let q := max f.least (floorLog num den - f.fraction)
    min ((q - f.least).toNat * pow2 f.fraction + roundAt num den q) f.infinity

/-- A pattern with a sign. -/
def signed (f : Format) (negative : Bool) (bits : Nat) : Nat :=
  if negative then f.signBit + bits else bits

/-- The pattern of the number nearest to m · 2^q. -/
def ofScaled (f : Format) (m : Nat) (q : Int) : Nat :=
  if 0 ≤ q then f.ofRatio (m * pow2 q.toNat) 1 else f.ofRatio m (pow2 (-q).toNat)

/-- The pattern of a number in a format. -/
def encode (f : Format) : Number → Nat
  | .nan => f.nan
  | .infinite negative => f.signed negative f.infinity
  | .finite negative m q => f.signed negative (f.ofScaled m q)

end Format

/-! ## 3. Numbers -/

namespace Number

/-- Whether a number is a zero of either sign. -/
def isZero : Number → Bool
  | .finite _ m _ => m == 0
  | _ => false

/-- The integer part of m · 2^q. -/
def integerPart (m : Nat) (q : Int) : Nat :=
  if 0 ≤ q then m * pow2 q.toNat else m / pow2 (-q).toNat

/-- The integer part of a number, or the nearest end of a range; no number gives zero. -/
def clamp (least greatest : Int) : Number → Int
  | .nan => 0
  | .infinite negative => if negative then least else greatest
  | .finite negative m q =>
    let n : Int := if negative then -(integerPart m q : Int) else integerPart m q
    max least (min greatest n)

/-- The number nearest to an integer. -/
def ofInt (n : Int) : Number := .finite (n < 0) n.natAbs 0

end Number

end Binary

/-- A number of 64 bits. -/
abbrev Double := BitVec 64

/-- A number of 32 bits. -/
abbrev Single := BitVec 32

namespace Double

open Binary

/-- What a number of 64 bits stands for. -/
def number (x : Double) : Number := double.decode x.toNat

/-- The number of 64 bits nearest to a number. -/
def ofNumber (n : Number) : Double := BitVec.ofNat 64 (double.encode n)

/-- The number of 64 bits nearest to an integer. -/
def ofInt (n : Int) : Double := ofNumber (.ofInt n)

end Double

namespace Single

open Binary

/-- What a number of 32 bits stands for. -/
def number (x : Single) : Number := single.decode x.toNat

/-- The number of 32 bits nearest to a number. -/
def ofNumber (n : Number) : Single := BitVec.ofNat 32 (single.encode n)

/-- The same number with 64 bits. -/
def widen (x : Single) : Double := Double.ofNumber x.number

end Single

/-- The nearest number of 32 bits. -/
def Double.narrow (x : Double) : Single := Single.ofNumber x.number

end Graft
