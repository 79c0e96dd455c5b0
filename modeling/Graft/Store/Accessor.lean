import Graft.Store.Basic

/-!
# Properties kept in a store

What a generated getter and setter do. The getter answers the default while nothing is held under
the property's key, and otherwise reads what is held: truth values, 64-bit integers, numbers and
texts with the store's own readers, any other type through its conversion from stored values, the
default again standing in for what is not of the type.
-/

namespace Graft

/-- A property of type `α` that is kept in a store. -/
structure Accessor (α : Type) where
  key : String
  default : α
  /-- How the property is read once something is held under its key. -/
  read : Store → String → α
  write : α → Stored

namespace Accessor

/-- A truth value. -/
def bool (key : String) (default : Bool) : Accessor Bool :=
  ⟨key, default, Store.bool, Storable.toStored⟩

/-- An integer of 64 bits. -/
def integer (key : String) (default : Int64) : Accessor Int64 :=
  ⟨key, default, Store.integer, .integer⟩

/-- A number of 64 bits. -/
def float (key : String) (default : Double) : Accessor Double :=
  ⟨key, default, Store.float, Storable.toStored⟩

/-- A text. -/
def string (key : String) (default : String) : Accessor String :=
  ⟨key, default, fun s k => (s.string k).getD default, Storable.toStored⟩

/-- A value of any type that can be stored. -/
def typed {α : Type} [Storable α] (key : String) (default : α) : Accessor α :=
  ⟨key, default, fun s k => (s.get α k).getD default, Storable.toStored⟩

/-- The getter. -/
def get {α : Type} (a : Accessor α) (s : Store) : α :=
  if (s.value a.key).isNone then a.default else a.read s a.key

/-- The setter. -/
def set {α : Type} (a : Accessor α) (s : Store) (v : α) : Store := s.setValue a.key (a.write v)

end Accessor

end Graft
