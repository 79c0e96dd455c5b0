import Graft.Nullable

/-!
# Copies

Two structs with a copying method: a record with an optional field, and a generic pair.
-/

namespace Graft.Showcase

/-- The state of a view. -/
structure ViewState where
  id : Int32
  name : Option String
deriving DecidableEq, Repr, Inhabited

/-- The state with the given fields replaced. -/
def ViewState.copy (s : ViewState) (id : Option Int32) (name : Nullable String) : ViewState :=
  ⟨id.getD s.id, name.or s.name⟩

/-- A value and a small count. -/
structure Pair (α : Type) where
  side : α
  count : Option UInt8
deriving DecidableEq, Repr, Inhabited

/-- The pair with the given fields replaced. -/
def Pair.copy {α : Type} (p : Pair α) (side : Option α) (count : Nullable UInt8) : Pair α :=
  ⟨side.getD p.side, count.or p.count⟩

/-- Both structs. -/
structure Copies where
  view : ViewState
  pair : Pair String
deriving DecidableEq, Repr, Inhabited

namespace Copies

/-- Both as they are in the beginning. -/
def initial : Copies := ⟨⟨1, some "Ada"⟩, ⟨"left", none⟩⟩

/-- What is replaced in one step. -/
structure Change where
  id : Option Int32
  name : Nullable String
  side : Option String
  count : Nullable UInt8

/-- Both after a step. -/
def apply (c : Copies) (d : Change) : Copies :=
  ⟨c.view.copy d.id d.name, c.pair.copy d.side d.count⟩

end Copies

end Graft.Showcase
