import Graft.Text.Quoted

/-!
# Replacements for optional values

A `Nullable` tells what to do with an optional value: leave it, clear it, or set it.
-/

namespace Graft

/-- A replacement for an optional value. -/
inductive Nullable (α : Type) where
  /-- Leave what is there. -/
  | unset
  /-- Clear it. -/
  | null
  /-- Set it. -/
  | value (a : α)
deriving DecidableEq, Repr, Inhabited

namespace Nullable

variable {α : Type}

/-- Whether a replacement leaves what is there. -/
def isUnset : Nullable α → Bool
  | .unset => true
  | _ => false

/-- The outcome, and how often the existing value was asked for. -/
def orElseCounted (existing : Unit → Option α) : Nullable α → Option α × Nat
  | .unset => (existing (), 1)
  | .null => (none, 0)
  | .value a => (some a, 0)

/-- The outcome, where the existing value is computed only if it is needed. -/
def orElse (existing : Unit → Option α) (n : Nullable α) : Option α := (n.orElseCounted existing).1

/-- The outcome, given the existing value. -/
def or (existing : Option α) (n : Nullable α) : Option α := n.orElse fun _ => existing

/-- The replacement that makes a value what is given. -/
def ofOption : Option α → Nullable α
  | some a => .value a
  | none => .null

/-- A replacement by a text, as it is shown in dumps. -/
def debug : Nullable String → String
  | .unset => "Unset"
  | .null => "Null"
  | .value s => "Value(" ++ Quoted.debug s ++ ")"

end Nullable

end Graft
