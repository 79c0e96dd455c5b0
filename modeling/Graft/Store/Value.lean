import Graft.Number.Decimal
import Graft.Text.Blank

/-!
# Stored values

A key-value store holds truth values, integers of 64 bits, floating-point numbers and texts.

* `Stored`: a value as it is held. The readers `Stored.asBool`, `Stored.asInteger`,
  `Stored.asFloat` and `Stored.asString` see any value as one of the four, the way preference stores do.
* `Storable`: the types that can be written and read back. An integer that is no 64-bit integer is
  written as its decimal text.
-/

namespace Graft

/-! ## 1. Values -/

/-- A value as it is held by a store. -/
inductive Stored where
  | bool (b : Bool)
  | integer (n : Int64)
  | float (x : Double)
  | string (s : String)
deriving DecidableEq, Repr, Inhabited

/-- The integer part of a number, as near as 64 bits allow. -/
def Double.toInt64 (x : Double) : Int64 :=
  Int64.ofInt (x.number.clamp IntType.i64.least IntType.i64.greatest)

/-- Whether a text is a word, in capitals or not. -/
def isWord (word : String) (cs : List Char) : Bool := cs.map Char.toLower == word.toList

namespace Stored

/-- The truth value that a text spells. -/
def boolOfText (cs : List Char) : Bool :=
  isWord "true" cs || isWord "yes" cs ||
    match IntType.i64.read? cs with
    | some n => n != 0
    | none => false

/-- The integer that a text spells; a fraction loses its part behind the point. -/
def integerOfText (cs : List Char) : Int64 :=
  match IntType.i64.read? cs with
  | some n => Int64.ofInt n
  | none =>
    match Decimal.read? cs with
    | some x => x.toInt64
    | none => 0

/-- The number that a text spells. -/
def floatOfText (cs : List Char) : Double := (Decimal.read? cs).getD 0

/-- A value as a truth value: what is not zero is true. -/
def asBool : Stored → Bool
  | .bool b => b
  | .integer n => n != 0
  | .float x => !x.number.isZero
  | .string s => boolOfText (trimBlanks s.toList)

/-- A value as an integer. -/
def asInteger : Stored → Int64
  | .bool b => if b then 1 else 0
  | .integer n => n
  | .float x => x.toInt64
  | .string s => integerOfText (trimBlanks s.toList)

/-- A value as a number. -/
def asFloat : Stored → Double
  | .bool b => Double.ofInt (if b then 1 else 0)
  | .integer n => Double.ofInt n.toInt
  | .float x => x
  | .string s => floatOfText (trimBlanks s.toList)

/-- A value as a text; truth values are `1` and `0`. -/
def asString : Stored → String
  | .bool b => if b then "1" else "0"
  | .integer n => String.ofList (decimal n.toInt)
  | .float x => String.ofList x.text
  | .string s => s

end Stored

/-! ## 2. Types -/

/-- A type whose values can be written to a store and read back. -/
class Storable (α : Type) where
  /-- The value that is held, if it is one of this type. -/
  ofStored? : Stored → Option α
  toStored : α → Stored

instance : Storable Bool where
  ofStored? := fun
    | .bool b => some b
    | _ => none
  toStored := .bool

instance : Storable Double where
  ofStored? := fun
    | .float x => some x
    | .integer n => some (Double.ofInt n.toInt)
    | _ => none
  toStored := .float

instance : Storable Single where
  ofStored? v := (Storable.ofStored? v : Option Double).map Double.narrow
  toStored x := .float x.widen

instance : Storable String where
  ofStored? := fun
    | .string s => some s
    | _ => none
  toStored := .string

namespace IntType

/-- The integer of a type that a value holds. Texts of digits count for all types but `i64`. -/
def ofStored? (t : IntType) : Stored → Option Int
  | .integer n => t.fit? n.toInt
  | .string s => if t == .i64 then none else t.read? s.toList
  | _ => none

/-- An integer as a value: a 64-bit integer if it is one, else its decimal text. -/
def toStored (n : Int) : Stored :=
  if IntType.i64.contains n then .integer (Int64.ofInt n) else .string (String.ofList (decimal n))

end IntType

/-- The integers of a type. -/
def IntOf (t : IntType) : Type := { n : Int // t.contains n = true }

instance (t : IntType) : Storable (IntOf t) where
  ofStored? v := (t.ofStored? v).bind fun n => if h : t.contains n = true then some ⟨n, h⟩ else none
  toStored n := IntType.toStored n.val

/-! ## 3. Types by name -/

/-- The types of this library that can be stored. -/
inductive TypeName where
  | bool
  | int (t : IntType)
  | single
  | double
  | string
deriving DecidableEq, Repr, Inhabited

/-- A value of one of these types. -/
inductive TypedValue where
  | bool (b : Bool)
  | int (t : IntType) (n : IntOf t)
  | single (x : Single)
  | double (x : Double)
  | string (s : String)

/-- The value of a type that is held. -/
def TypeName.ofStored? (t : TypeName) (v : Stored) : Option TypedValue :=
  match t with
  | .bool => (Storable.ofStored? v).map .bool
  | .int t => (Storable.ofStored? v : Option (IntOf t)).map (.int t)
  | .single => (Storable.ofStored? v).map .single
  | .double => (Storable.ofStored? v).map .double
  | .string => (Storable.ofStored? v).map .string

/-- A value as it is held. -/
def TypedValue.toStored : TypedValue → Stored
  | .bool b => Storable.toStored b
  | .int _ n => Storable.toStored n
  | .single x => Storable.toStored x
  | .double x => Storable.toStored x
  | .string s => Storable.toStored s

end Graft
