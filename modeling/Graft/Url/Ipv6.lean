import Graft.Url.Ipv4

/-!
# Addresses of 128 bits

Eight groups of up to four hexadecimal digits, divided by colons. Two colons in a row, once, stand
for groups of zeros that are left out; the last two groups may be written as an address of 32 bits.

* `Url.ipv6?`: the groups of an address.
* `Url.ipv6Text`: the text of an address.
-/

namespace Graft.Url

/-! ## 1. Reading -/

/-- A group. -/
def group? (cs : List Char) : Option Nat :=
  if cs.isEmpty || 4 < cs.length then none else digitsIn? 16 cs

/-- The groups of a text. -/
def groups? (cs : List Char) : Option (List Nat) :=
  if cs.isEmpty then some [] else (cs.splitOn ':').mapM group?

/-- A number below 256 without zeros in front. -/
def octet? (cs : List Char) : Option Nat :=
  if cs.isEmpty || 3 < cs.length || (1 < cs.length && cs.head? == some '0') then none
  else (digitsIn? 10 cs).filter (· < 256)

/-- The two groups of four numbers divided by full stops. -/
def dotted? (cs : List Char) : Option (List Nat) :=
  match (cs.splitOn '.').mapM octet? with
  | some [a, b, c, d] => some [a * 256 + b, c * 256 + d]
  | _ => none

/-- The groups of a text whose last part may be dotted. -/
def lastGroups? (cs : List Char) : Option (List Nat) :=
  match (cs.splitOn ':').reverse with
  | last :: front =>
    if last.contains '.' then do
      let first ← front.reverse.mapM group?
      return first ++ (← dotted? last)
    else groups? cs
  | [] => groups? cs

/-- What stands before and behind the first two colons in a row. -/
def splitGap : List Char → List Char × Option (List Char)
  | ':' :: ':' :: rest => ([], some rest)
  | c :: rest => (c :: (splitGap rest).1, (splitGap rest).2)
  | [] => ([], none)

/-- The eight groups of an address. A gap stands for at least one of them. -/
def ipv6? (cs : List Char) : Option (List Nat) :=
  match splitGap cs with
  | (all, none) => (lastGroups? all).filter (·.length == 8)
  | (before, some behind) => do
    let first ← groups? before
    let last ← lastGroups? behind
    if first.length + last.length < 8 then
      some (first ++ List.replicate (8 - first.length - last.length) 0 ++ last)
    else none

/-! ## 2. Writing -/

/-- The hexadecimal digits of a number, in small letters. -/
def hexText (n : Nat) : List Char := Nat.toDigits 16 n

/-- How many groups from the front are zero. -/
def zeros (gs : List Nat) : Nat := (gs.takeWhile (· == 0)).length

/-- Where the first longest row of zeros begins, and its length. -/
def longestZeros (gs : List Nat) : Nat × Nat :=
  (List.range gs.length).foldl
    (fun best i => if best.2 < zeros (gs.drop i) then (i, zeros (gs.drop i)) else best) (0, 0)

/-- The text of an address: the first longest row of two or more zeros is left out. -/
def ipv6Text (gs : List Nat) : List Char :=
  let (start, length) := longestZeros gs
  let text (gs : List Nat) : List Char := [':'].intercalate (gs.map hexText)
  if length < 2 then text gs
  else text (gs.take start) ++ "::".toList ++ text (gs.drop (start + length))

end Graft.Url
