import Graft.Store.Value

/-!
# Key-value stores

* `Store.value`: what is held under a key; every other reader is a function of it.
* `Store.setValue`, `Store.remove`: the two changes there are.
* `Store.step`, `Store.run`: operations one by one and in sequence, with their answers.
-/

namespace Graft

/-- A store: keys with the values held under them. -/
structure Store where
  entries : List (String × Stored)
deriving Inhabited

namespace Store

/-- The store that holds nothing. -/
def empty : Store := ⟨[]⟩

/-- What is held under a key. -/
def value (s : Store) (key : String) : Option Stored :=
  (s.entries.find? fun e => e.1 == key).map (·.2)

/-- The store without what is held under a key. -/
def remove (s : Store) (key : String) : Store := ⟨s.entries.filter fun e => e.1 != key⟩

/-- The store with a value under a key. -/
def setValue (s : Store) (key : String) (v : Stored) : Store :=
  ⟨(key, v) :: (s.remove key).entries⟩

/-- What is held under a key as a truth value. -/
def bool (s : Store) (key : String) : Bool :=
  match s.value key with
  | some v => v.asBool
  | none => false

/-- What is held under a key as an integer. -/
def integer (s : Store) (key : String) : Int64 :=
  match s.value key with
  | some v => v.asInteger
  | none => 0

/-- What is held under a key as a number. -/
def float (s : Store) (key : String) : Double :=
  match s.value key with
  | some v => v.asFloat
  | none => 0

/-- What is held under a key as a text. -/
def string (s : Store) (key : String) : Option String := (s.value key).map Stored.asString

/-- What is held under a key as a value of a type. -/
def get (α : Type) [Storable α] (s : Store) (key : String) : Option α :=
  (s.value key).bind Storable.ofStored?

/-- The store with a value of a type under a key. -/
def set {α : Type} [Storable α] (s : Store) (key : String) (a : α) : Store :=
  s.setValue key (Storable.toStored a)

/-! ## Runs -/

/-- What can be done with one key. -/
inductive Op where
  | value
  | remove
  | setValue (v : Stored)
  | bool
  | integer
  | float
  | string
  | readers
  | get (t : TypeName)
  | set (v : TypedValue)
deriving Inhabited

/-- What an operation answers: the value afterwards, or what a reader sees. -/
inductive Answer where
  | value (v : Option Stored)
  | bool (b : Bool)
  | integer (n : Int64)
  | float (x : Double)
  | string (s : Option String)
  | readers (b : Bool) (n : Int64) (x : Double) (s : Option String)
  | typed (v : Option TypedValue)

/-- The store after an operation. -/
def after (s : Store) (key : String) : Op → Store
  | .remove => s.remove key
  | .setValue v => s.setValue key v
  | .set v => s.setValue key v.toStored
  | _ => s

/-- One operation: its answer, and the store afterwards. -/
def step (s : Store) (key : String) (op : Op) : Answer × Store :=
  let s' := s.after key op
  let answer : Answer :=
    match op with
    | .value | .remove | .setValue _ | .set _ => .value (s'.value key)
    | .bool => .bool (s'.bool key)
    | .integer => .integer (s'.integer key)
    | .float => .float (s'.float key)
    | .string => .string (s'.string key)
    | .readers => .readers (s'.bool key) (s'.integer key) (s'.float key) (s'.string key)
    | .get t => .typed ((s'.value key).bind t.ofStored?)
  (answer, s')

/-- Operations in sequence, with their answers. -/
def run (s : Store) : List (String × Op) → List Answer
  | [] => []
  | (key, op) :: rest => (s.step key op).1 :: run (s.step key op).2 rest

end Store

end Graft
