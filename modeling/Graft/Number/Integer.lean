import Graft.Number.Power

/-!
# Integers of fixed width

* `IntType`: the integer types, with the range of each; `isize` and `usize` have 64 bits.
* `decimal` and `IntType.read?`: the decimal text of an integer, and reading one that has to fit a
  type.
-/

namespace Graft

/-! ## 1. Types -/

/-- An integer type. -/
inductive IntType where
  | i8
  | i16
  | i32
  | i64
  | i128
  | isize
  | u8
  | u16
  | u32
  | u64
  | u128
  | usize
deriving DecidableEq, Repr, Inhabited

namespace IntType

/-- All integer types. -/
def all : List IntType :=
  [.i8, .i16, .i32, .i64, .i128, .isize, .u8, .u16, .u32, .u64, .u128, .usize]

/-- The name of a type. -/
def name : IntType → String
  | .i8 => "i8"
  | .i16 => "i16"
  | .i32 => "i32"
  | .i64 => "i64"
  | .i128 => "i128"
  | .isize => "isize"
  | .u8 => "u8"
  | .u16 => "u16"
  | .u32 => "u32"
  | .u64 => "u64"
  | .u128 => "u128"
  | .usize => "usize"

/-- The type of a name. -/
def ofName? (name : String) : Option IntType := all.find? (·.name == name)

/-- The number of bits. -/
def width : IntType → Nat
  | .i8 | .u8 => 8
  | .i16 | .u16 => 16
  | .i32 | .u32 => 32
  | .i64 | .u64 | .isize | .usize => 64
  | .i128 | .u128 => 128

/-- Whether a type has negative values. -/
def signed : IntType → Bool
  | .i8 | .i16 | .i32 | .i64 | .i128 | .isize => true
  | .u8 | .u16 | .u32 | .u64 | .u128 | .usize => false

/-- The least value. -/
def least (t : IntType) : Int := if t.signed then -(pow2 (t.width - 1)) else 0

/-- The greatest value. -/
def greatest (t : IntType) : Int := if t.signed then pow2 (t.width - 1) - 1 else pow2 t.width - 1

/-- Whether an integer is a value of a type. -/
def contains (t : IntType) (n : Int) : Bool := decide (t.least ≤ n ∧ n ≤ t.greatest)

end IntType

/-! ## 2. Decimal text -/

/-- The digit of a number below ten. -/
def digitChar (n : Nat) : Char := Char.ofNat ('0'.toNat + n)

/-- The decimal digits of a natural number. -/
def digitsOf (n : Nat) : List Char :=
  if n < 10 then [digitChar n] else digitsOf (n / 10) ++ [digitChar (n % 10)]

/-- The decimal text of an integer. -/
def decimal (n : Int) : List Char :=
  if n < 0 then '-' :: digitsOf n.natAbs else digitsOf n.natAbs

/-- The value of a decimal digit. -/
def digitValue? (c : Char) : Option Nat :=
  if '0' ≤ c ∧ c ≤ '9' then some (c.toNat - '0'.toNat) else none

/-- The number that digits behind `value` spell. -/
def digitsValue? (value : Nat) : List Char → Option Nat
  | [] => some value
  | c :: rest => (digitValue? c).bind fun d => digitsValue? (value * 10 + d) rest

/-- The number that a text of one or more digits spells. -/
def natural? (cs : List Char) : Option Nat := if cs.isEmpty then none else digitsValue? 0 cs

namespace IntType

/-- An integer, if it is a value of a type. -/
def fit? (t : IntType) (n : Int) : Option Int := if t.contains n then some n else none

/-- The integer that a text spells, if it is a value of a type. A minus sign belongs to signed types
only. -/
def read? (t : IntType) : List Char → Option Int
  | '+' :: rest => (natural? rest).bind fun n => t.fit? n
  | '-' :: rest => if t.signed then (natural? rest).bind fun n => t.fit? (-(n : Int)) else none
  | cs => (natural? cs).bind fun n => t.fit? n

end IntType

end Graft
