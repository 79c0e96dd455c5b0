import Graft.Text.Hex

/-!
# Sets of characters

A Unicode property holds on runs of code points. `CharSet` keeps the points at which membership
changes, in ascending order, so a character belongs to the set exactly when the number of such
points at or below it is odd.

* `CharSet.rank`: how many change points lie at or below a code point, by bisection.
* `CharSet.contains`: membership of a character.
* `CharSet.ofSteps`: a table written as hexadecimal distances between neighbouring change points.
-/

namespace Graft

/-- A set of characters, as the ascending code points at which membership changes. -/
structure CharSet where
  /-- The first point starts a run of members, the second ends it, and so on. -/
  changes : Array Nat
deriving Inhabited

namespace CharSet

/-- The number of entries of `table` between `lo` and `hi` that are at most `x`, plus `lo`; the
table is ascending, everything below `lo` is at most `x` and everything from `hi` on exceeds it. -/
def bisect (table : Array Nat) (x lo hi : Nat) : Nat :=
  if lo < hi then
    let mid := (lo + hi) / 2
    if table.getD mid 0 ≤ x then bisect table x (mid + 1) hi else bisect table x lo mid
  else lo
termination_by hi - lo

/-- How many change points lie at or below `x`. -/
def rank (s : CharSet) (x : Nat) : Nat :=
  bisect s.changes x 0 s.changes.size

/-- A character is a member iff an odd number of changes lies at or below it. -/
def contains (s : CharSet) (c : Char) : Bool :=
  s.rank c.toNat % 2 == 1

/-- The numbers of a text of hexadecimal numbers divided by blanks and line ends. -/
def hexNumbers (text : String) : Array Nat :=
  let (last, all) := text.foldl
    (fun (cur, all) c =>
      if c == ' ' || c == '\n' then
        match cur with
        | some n => (none, all.push n)
        | none => (none, all)
      else (some (cur.getD 0 * 16 + (hexValue? c).getD 0), all))
    ((none, #[]) : Option Nat × Array Nat)
  match last with
  | some n => all.push n
  | none => all

/-- Running sums: the change points from the distances between them. -/
def runningSums (steps : Array Nat) : Array Nat :=
  (steps.foldl (fun (at_, all) d => (at_ + d, all.push (at_ + d))) (0, #[])).2

/-- A set whose change points are given by the distances between them. -/
def ofSteps (text : String) : CharSet :=
  ⟨runningSums (hexNumbers text)⟩

end CharSet

end Graft
