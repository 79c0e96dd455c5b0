import Graft.Text.CharSet

/-!
# Look-up tables for characters

Three kinds of table, each written as hexadecimal numbers in ascending order of the characters and
searched by bisection.

* `CharTable`: a number for every character, the same on a whole run.
* `ShiftTable`: runs of characters that all move by the same distance.
* `SpellingTable`: characters that stand for several others.
-/

namespace Graft

/-! ## 1. Numbers -/

/-- A number for every character, as the starts of the runs on which it is the same. -/
structure CharTable where
  starts : Array Nat
  values : Array Nat
deriving Inhabited

namespace CharTable

/-- The number of a character; zero in front of the first run. -/
def get (t : CharTable) (c : Char) : Nat :=
  match CharSet.bisect t.starts c.toNat 0 t.starts.size with
  | 0 => 0
  | k + 1 => t.values.getD k 0

/-- The runs of a list that gives for each its distance from the one before and its number. -/
def runs (start : Nat) : List Nat → List (Nat × Nat)
  | gap :: value :: rest => (start + gap, value) :: runs (start + gap) rest
  | _ => []

/-- A table whose runs are given by distance and number. -/
def ofText (text : String) : CharTable :=
  let rs := runs 0 (CharSet.hexNumbers text).toList
  ⟨(rs.map (·.1)).toArray, (rs.map (·.2)).toArray⟩

end CharTable

/-! ## 2. Shifts -/

/-- Every `step`-th character from `first` to `last` moves; the first one becomes `target`. -/
structure Shift where
  first : Nat
  last : Nat
  step : Nat
  target : Nat
deriving Inhabited

/-- Shifts of disjoint runs, in ascending order. -/
structure ShiftTable where
  starts : Array Nat
  shifts : Array Shift
deriving Inhabited

namespace ShiftTable

/-- What a character becomes, if it moves. -/
def get? (t : ShiftTable) (c : Char) : Option Char :=
  match CharSet.bisect t.starts c.toNat 0 t.starts.size with
  | 0 => none
  | k + 1 =>
    let s := t.shifts.getD k default
    if c.toNat ≤ s.last && (c.toNat - s.first) % s.step == 0 then
      some (Char.ofNat (s.target + (c.toNat - s.first)))
    else none

/-- The shifts of a list that gives for each its distance from the end of the one before, its
length, its step and its target. -/
def readShifts (stop : Nat) : List Nat → List Shift
  | gap :: length :: step :: target :: rest =>
    ⟨stop + gap, stop + gap + length, step, target⟩ :: readShifts (stop + gap + length) rest
  | _ => []

/-- A table whose shifts are given by distance, length, step and target. -/
def ofText (text : String) : ShiftTable :=
  let ss := readShifts 0 (CharSet.hexNumbers text).toList
  ⟨(ss.map (·.first)).toArray, ss.toArray⟩

end ShiftTable

/-! ## 3. Spellings -/

/-- Characters that stand for several others, in ascending order. -/
structure SpellingTable where
  keys : Array Nat
  spellings : Array (List Char)
deriving Inhabited

namespace SpellingTable

/-- What a character stands for, if it is in the table. -/
def get? (t : SpellingTable) (c : Char) : Option (List Char) :=
  match CharSet.bisect t.keys c.toNat 0 t.keys.size with
  | 0 => none
  | k + 1 => if t.keys.getD k 0 == c.toNat then t.spellings[k]? else none

/-- The entries of a list that gives for each its distance from the one before, how many characters
it stands for, and these. -/
def entries (key : Nat) : List Nat → List (Nat × List Char)
  | gap :: count :: rest =>
    (key + gap, (rest.take count).map Char.ofNat) :: entries (key + gap) (rest.drop count)
  | _ => []
termination_by ns => ns.length
decreasing_by simp; omega

/-- A table whose entries are given by distance, count and characters. -/
def ofText (text : String) : SpellingTable :=
  let es := entries 0 (CharSet.hexNumbers text).toList
  ⟨(es.map (·.1)).toArray, (es.map (·.2)).toArray⟩

end SpellingTable

end Graft
