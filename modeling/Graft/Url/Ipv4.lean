import Graft.Number.Integer
import Graft.Url.Percent

/-!
# Addresses of 32 bits

Up to four numbers divided by full stops. A number is decimal, octal after a zero, or hexadecimal
after `0x`; the last one fills all the bytes that are left.

* `Url.endsInNumber`: whether a host can only be such an address.
* `Url.ipv4?`: the address.
-/

namespace Graft.Url

/-- The number that digits of a base spell. -/
def digitsIn? (base : Nat) (cs : List Char) : Option Nat :=
  cs.foldlM
    (fun n c => (hexValue? c).bind fun d => if d < base then some (n * base + d) else none) 0

/-- A part of an address as a number; `0x` alone is zero. -/
def ipv4Number? : List Char → Option Nat
  | [] => none
  | ['0'] => some 0
  | '0' :: 'x' :: ds | '0' :: 'X' :: ds => digitsIn? 16 ds
  | '0' :: ds => digitsIn? 8 ds
  | ds => digitsIn? 10 ds

/-- The parts of a host; an empty one at the end does not count. -/
def hostParts (cs : List Char) : List (List Char) :=
  let parts := cs.splitOn '.'
  if 1 < parts.length && parts.getLast? == some [] then parts.dropLast else parts

/-- Whether the last part of a host is a number, or digits that should be one. -/
def endsInNumber (cs : List Char) : Bool :=
  match (hostParts cs).getLast? with
  | none => false
  | some last =>
    (!last.isEmpty && last.all fun c => (digitValue? c).isSome) || (ipv4Number? last).isSome

/-- The address with these numbers in its first bytes and the last number in the others. -/
def ipv4OfNumbers? (ns : List Nat) : Option Nat :=
  match ns.reverse with
  | [] => none
  | last :: front =>
    let first := front.reverse
    if ns.length ≤ 4 && first.all (· < 256) && last < pow2 (8 * (5 - ns.length)) then
      some (first.foldl (fun n b => n * 256 + b) 0 * pow2 (8 * (5 - ns.length)) + last)
    else none

/-- The address that a host spells. -/
def ipv4? (cs : List Char) : Option Nat := ((hostParts cs).mapM ipv4Number?).bind ipv4OfNumbers?

/-- The text of an address. -/
def ipv4Text (n : Nat) : List Char :=
  ['.'].intercalate ([24, 16, 8, 0].map fun k => digitsOf (n / pow2 k % 256))

end Graft.Url
