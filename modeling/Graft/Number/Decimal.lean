import Graft.Number.Binary
import Graft.Number.Integer

/-!
# Decimal text of binary numbers

* `Decimal.read?`: the binary number nearest to a decimal text, which may have a sign, a point and
  an exponent.
* `Decimal.shortest`: the fewest decimal digits that read back as a binary number, and of those the
  nearest to it.
* `Double.text`: a number written with these digits, without an exponent.
-/

namespace Graft.Decimal

open Binary

/-! ## 1. Reading -/

/-- A decimal numeral: `digits` · 10^`exponent`. -/
structure Numeral where
  digits : Nat
  exponent : Int
deriving DecidableEq, Repr

/-- The digits in front, and what follows them. -/
def spanDigits (cs : List Char) : List Char × List Char :=
  (cs.takeWhile fun c => (digitValue? c).isSome, cs.dropWhile fun c => (digitValue? c).isSome)

/-- The exponent of a numeral, from its mark on. -/
def exponent? : List Char → Option Int
  | [] => some 0
  | mark :: rest =>
    if mark == 'e' || mark == 'E' then
      match rest with
      | '+' :: ds => (natural? ds).map fun n => (n : Int)
      | '-' :: ds => (natural? ds).map fun n => -(n : Int)
      | ds => (natural? ds).map fun n => (n : Int)
    else none

/-- A numeral: digits with perhaps a point among them, at least one digit, and perhaps an
exponent. -/
def numeral? (cs : List Char) : Option Numeral :=
  let (whole, rest) := spanDigits cs
  let (part, rest) :=
    match rest with
    | '.' :: rest => spanDigits rest
    | rest => ([], rest)
  match natural? (whole ++ part), exponent? rest with
  | some digits, some e => some ⟨digits, e - part.length⟩
  | _, _ => none

/-- The pattern nearest to a numeral. One whose first digit is too far from the point is decided
without its powers of ten. -/
def Numeral.round (n : Numeral) : Nat :=
  let leading : Int := (digitsOf n.digits).length + n.exponent
  if n.digits == 0 then 0
  else if leading > 400 then double.infinity
  else if leading < -400 then 0
  else if 0 ≤ n.exponent then double.ofRatio (n.digits * pow10 n.exponent.toNat) 1
  else double.ofRatio n.digits (pow10 (-n.exponent).toNat)

/-- The words for what is no finite number. -/
def special? (cs : List Char) : Option Nat :=
  let word := cs.map Char.toLower
  if word == "inf".toList || word == "infinity".toList then some double.infinity
  else if word == "nan".toList then some double.nan
  else none

/-- The pattern of a text without a sign. -/
def magnitude? (cs : List Char) : Option Nat :=
  match special? cs with
  | some bits => some bits
  | none => (numeral? cs).map Numeral.round

/-- The number that a text spells. -/
def read? (cs : List Char) : Option Double :=
  let found :=
    match cs with
    | '+' :: rest => magnitude? rest
    | '-' :: rest => (magnitude? rest).map (double.signed true)
    | cs => magnitude? cs
  found.map (BitVec.ofNat 64)

/-! ## 2. Writing -/

/-- The numbers that round to m · 2^q, in units of 2^(q-2): from `lo` to `hi`, the ends included iff
m is even. Below a power of two the neighbours are closer. -/
structure Interval where
  lo : Nat
  mid : Nat
  hi : Nat
  closed : Bool

/-- The interval of a finite number. -/
def Interval.of (f : Format) (m : Nat) (q : Int) : Interval where
  lo := if m == pow2 f.fraction && f.least < q then 4 * m - 1 else 4 * m - 2
  mid := 4 * m
  hi := 4 * m + 2
  closed := m % 2 == 0

/-- The number of decimal digits in front of the point of `num / den`; for a number below one, zero
or minus the number of zeros behind the point. -/
def magnitudeOf (num den : Nat) : Int :=
  if den ≤ num then (digitsOf (num / den)).length
  else
    let d := (digitsOf den).length - (digitsOf num).length
    let zeros := if den ≤ num * pow10 (d - 1) then d - 1
      else if den ≤ num * pow10 d then d else d + 1
    1 - (zeros : Int)

/-- Whether a decimal, `num / den` in units of which the interval is given, lies in it. -/
def Interval.has (i : Interval) (num den : Nat) : Bool :=
  if i.closed then decide (i.lo * den ≤ num ∧ num ≤ i.hi * den)
  else decide (i.lo * den < num ∧ num < i.hi * den)

/-- The decimal of some number of digits next to a number that reads back as it, if there is one:
of the neighbours below and above, the one that does, the nearer one if both do, the one above if
they are equally near. `unit` is the unit of the interval, as a fraction. -/
def candidate? (i : Interval) (unit : Nat × Nat) (leading : Int) (count : Nat) : Option Numeral :=
  let e : Int := leading - count
  -- a decimal `d · 10^e` has the value `d · up / down` in units of the interval
  let up := (if 0 ≤ e then pow10 e.toNat else 1) * unit.2
  let down := (if 0 ≤ e then 1 else pow10 (-e).toNat) * unit.1
  let below := i.mid * down / up
  let above := below + 1
  let hitBelow := i.has (below * up) down
  let hitAbove := i.has (above * up) down
  let nearerAbove := decide (2 * (i.mid * down) ≥ (below + above) * up)
  if hitAbove && (!hitBelow || nearerAbove) then some ⟨above, e⟩
  else if hitBelow then some ⟨below, e⟩
  else none

/-- The fewest digits that read back as the number m · 2^q, with their exponent. -/
def shortest (f : Format) (m : Nat) (q : Int) : Numeral :=
  let i := Interval.of f m q
  let q := q - 2
  let unit := if 0 ≤ q then (pow2 q.toNat, 1) else (1, pow2 (-q).toNat)
  let leading := magnitudeOf (i.mid * unit.1) unit.2
  ((List.range 17).findSome? fun n => candidate? i unit leading (n + 1)).getD
    ⟨i.mid * unit.1 / unit.2, 0⟩

/-- A numeral without the zeros at its end, up to a number of them. -/
def stripZeros : Nat → Numeral → Numeral
  | 0, n => n
  | k + 1, n =>
    if n.digits % 10 == 0 && n.digits != 0 then stripZeros k ⟨n.digits / 10, n.exponent + 1⟩ else n

/-- A numeral written out, without an exponent. -/
def positional (n : Numeral) : List Char :=
  let ds := digitsOf n.digits
  if 0 ≤ n.exponent then ds ++ List.replicate n.exponent.toNat '0'
  else
    let places := (-n.exponent).toNat
    if places < ds.length then
      ds.take (ds.length - places) ++ '.' :: ds.drop (ds.length - places)
    else '0' :: '.' :: (List.replicate (places - ds.length) '0' ++ ds)

end Decimal

/-- A number as text: the fewest digits that read back, never with an exponent. -/
def Double.text (x : Double) : List Char :=
  match x.number with
  | .nan => "NaN".toList
  | .infinite negative => (if negative then "-inf" else "inf").toList
  | .finite negative m q =>
    (if negative then ['-'] else []) ++
      if m == 0 then ['0']
      else Decimal.positional (Decimal.stripZeros 400 (Decimal.shortest Binary.double m q))

end Graft
