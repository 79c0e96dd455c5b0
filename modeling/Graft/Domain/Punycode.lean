/-!
# Labels in ASCII

A label with characters beyond ASCII has a second spelling that uses letters, digits and hyphens
alone: its ASCII characters, a hyphen if there are any, and then numbers that say which characters
to insert and where. A number is written with the least digit first, in a base that changes from
digit to digit and adapts to the numbers before.

* `decode`: the label of an ASCII spelling.
* `encode`: the ASCII spelling of a label.
-/

namespace Graft.Punycode

/-! ## 1. Numbers -/

/-- The digit of a value below 36. -/
def digit (n : Nat) : Char :=
  if n < 26 then Char.ofNat ('a'.toNat + n) else Char.ofNat ('0'.toNat + (n - 26))

/-- The value of a digit. -/
def value? (c : Char) : Option Nat :=
  if 'a' ≤ c ∧ c ≤ 'z' then some (c.toNat - 'a'.toNat)
  else if 'A' ≤ c ∧ c ≤ 'Z' then some (c.toNat - 'A'.toNat)
  else if '0' ≤ c ∧ c ≤ '9' then some (c.toNat - '0'.toNat + 26)
  else none

/-- The least value of a digit at position `k` that is followed by another digit. -/
def threshold (k bias : Nat) : Nat := min 26 (max 1 (k - bias))

/-- How often a number is divided until it is small, counted in positions, and what is left. -/
def shrink (delta k : Nat) : Nat × Nat :=
  if 455 < delta then shrink (delta / 35) (k + 36) else (delta, k)
termination_by delta
decreasing_by omega

/-- The bias for the next number, after one of value `delta` that made the label `count` long. -/
def adapt (delta count : Nat) (isFirst : Bool) : Nat :=
  let delta := if isFirst then delta / 700 else delta / 2
  let (delta, k) := shrink (delta + delta / count) 0
  k + 36 * delta / (delta + 38)

/-! ## 2. Reading -/

/-- A number, and what follows it. -/
def number? (bias k weight total : Nat) : List Char → Option (Nat × List Char)
  | [] => none
  | c :: rest =>
    (value? c).bind fun d =>
      if d < threshold k bias then some (total + d * weight, rest)
      else number? bias (k + 36) (weight * (36 - threshold k bias)) (total + d * weight) rest

/-- A number has at least one digit. -/
theorem length_of_number? {bias k weight total n : Nat} {cs rest : List Char}
    (h : number? bias k weight total cs = some (n, rest)) : rest.length < cs.length := by
  induction cs generalizing k weight total with
  | nil => simp [number?] at h
  | cons c cs ih =>
    simp only [number?, Option.bind_eq_some_iff] at h
    obtain ⟨d, -, hd⟩ := h
    split at hd
    · simp_all
    · have := ih hd
      simp only [List.length_cons]
      omega

/-- A label with the characters that the numbers tell inserted. `point` is the character that was
inserted last, `place` the place behind it. -/
def insertAll? (bias point place : Nat) (label : List Char) (cs : List Char) :
    Option (List Char) :=
  if cs.isEmpty then some label
  else
    match _h : number? bias 36 1 0 cs with
    | none => none
    | some (delta, rest) =>
      let count := label.length + 1
      let next := point + (place + delta) / count
      let index := (place + delta) % count
      if next < 0xd800 || (0xdfff < next && next < 0x110000) then
        insertAll? (adapt delta count (place == 0)) next (index + 1)
          (label.take index ++ Char.ofNat next :: label.drop index) rest
      else none
termination_by cs.length
decreasing_by exact length_of_number? _h

/-- The label of an ASCII spelling. What stands before the last hyphen is taken as it is; a hyphen
with nothing before it is no such mark, and no digit either. -/
def decode (cs : List Char) : Option (List Char) :=
  let tail := (cs.reverse.takeWhile (· != '-')).reverse
  let head := cs.take (cs.length - tail.length - 1)
  insertAll? 72 128 0 head (if head.isEmpty then cs else tail)

/-! ## 3. Writing -/

/-- The digits of a number. -/
def digits (bias k n : Nat) : List Char :=
  let t := threshold k bias
  if n < t then [digit n]
  else digit (t + (n - t) % (36 - t)) :: digits bias (k + 36) ((n - t) / (36 - t))
termination_by n
decreasing_by
  have : 1 ≤ threshold k bias := by unfold threshold; omega
  have := Nat.div_le_self (n - threshold k bias) (36 - threshold k bias)
  omega

/-- A label that is being written: its digits so far, the bias, the number to be written next, and
how many characters are written. -/
structure Draft where
  text : List Char
  bias : Nat
  delta : Nat
  count : Nat

/-- One look at a character of the label, while the characters `point` are written; `basic` are
written as they are. -/
def Draft.look (basic point : Nat) (d : Draft) (c : Char) : Draft :=
  if c.toNat < point then { d with delta := d.delta + 1 }
  else if c.toNat == point then
    { text := d.text ++ digits d.bias 36 d.delta
      bias := adapt d.delta (d.count + 1) (d.count == basic)
      delta := 0
      count := d.count + 1 }
  else d

/-- Writes the characters of the given code points, in ascending order, from `next` on. -/
def Draft.write (label : List Char) (basic : Nat) : Nat → List Nat → Draft → Draft
  | _, [], d => d
  | next, point :: points, d =>
    let d := label.foldl (Draft.look basic point)
      { d with delta := d.delta + (point - next) * (d.count + 1) }
    Draft.write label basic (point + 1) points { d with delta := d.delta + 1 }

/-- The ASCII spelling of a label. -/
def encode (label : List Char) : List Char :=
  let basic := label.filter fun c => c.toNat < 128
  let points := ((label.map Char.toNat).filter (128 ≤ ·)).mergeSort.eraseReps
  let d := Draft.write label basic.length 128 points ⟨[], 72, 0, basic.length⟩
  basic ++ (if basic.isEmpty then [] else ['-']) ++ d.text

end Graft.Punycode
