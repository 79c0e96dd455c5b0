import Graft.Literal
import Graft.Proofs.Method.Reading
import Graft.Proofs.Store.Integers
import Graft.Transform.Accessors
import Mathlib

/-!
# What generated code is surrounded by

Generated accessors name a store, types, and constants of the program that they are put into. What
these are is not settled by the accessors themselves.

* `StoredTypes`: the types with a conversion of their own; `KeptType`: all types that a property can
  be of, with their values (`StoredTypes.ValueOf`) and conversions (`StoredTypes.conversionOf`).
* `spelledLit?`: the literal that an expression spells, with its sign; `SignedLit.value?`: its value
  where one of a certain type is expected.
* `Scope`: what the names of the program stand for; `Scope.type?` and `Scope.value?`: types and
  expressions, from their tokens.
-/

namespace Graft

/-! ## 1. Types -/

/-- The types of a program with a conversion of their own. Each recognises what it wrote. -/
structure StoredTypes where
  Name : Type
  decEq : DecidableEq Name
  Value : Name → Type
  conversion : ∀ n, Storable (Value n)
  law : ∀ n (x : Value n), (conversion n).ofStored? ((conversion n).toStored x) = some x

/-- The type of a stored property. -/
inductive KeptType (Name : Type) where
  | bool
  | integer
  | float
  | string
  | number (t : IntType)
  | named (n : Name)
deriving DecidableEq

/-- The types that have a name everywhere. -/
def KeptType.ofName? {Name : Type} (name : String) : Option (KeptType Name) :=
  if name == "bool" then some .bool
  else if name == "i64" then some .integer
  else if name == "f64" then some .float
  else (IntType.ofName? name).map .number

namespace StoredTypes

variable (types : StoredTypes)

instance : DecidableEq types.Name := types.decEq

/-- The values of a type. -/
def ValueOf : KeptType types.Name → Type
  | .bool => Bool
  | .integer => Int64
  | .float => Double
  | .string => String
  | .number t => IntOf t
  | .named n => types.Value n

/-- The conversion of a type. -/
@[reducible]
def conversionOf : (type : KeptType types.Name) → Storable (types.ValueOf type)
  | .bool => inferInstanceAs (Storable Bool)
  | .integer =>
    { ofStored? := fun
        | .integer n => some n
        | _ => none
      toStored := .integer }
  | .float => inferInstanceAs (Storable Double)
  | .string => inferInstanceAs (Storable String)
  | .number t => inferInstanceAs (Storable (IntOf t))
  | .named n => types.conversion n

/-- **Every type recognises what it wrote.** -/
theorem ofStored?_toStored (type : KeptType types.Name) (x : types.ValueOf type) :
    (types.conversionOf type).ofStored? ((types.conversionOf type).toStored x) = some x := by
  cases type with
  | bool | integer | float | string => rfl
  | number t => exact IntOf.ofStored?_toStored_self x
  | named n => exact types.law n x

end StoredTypes

/-! ## 2. Literals -/

/-- A literal, and whether a minus sign stands in front of it. -/
structure SignedLit where
  negative : Bool
  value : Lit

mutual

/-- The literal that a token spells. Parentheses and invisible groups are looked through. -/
def Token.spelledLit? : Token → Option SignedLit
  | .ident i =>
    if i.text == "true" then some ⟨false, .bool true⟩
    else if i.text == "false" then some ⟨false, .bool false⟩
    else none
  | .literal text _ => (Lit.read? text).map fun value => ⟨false, value⟩
  | .group .paren inner _ => spelledLit? inner
  | .group .invisible inner _ => spelledLit? inner
  | _ => none

/-- The literal that an expression spells, perhaps behind minus signs and attributes. -/
def spelledLit? : List Token → Option SignedLit
  | [t] => t.spelledLit?
  | .punct '-' _ _ :: rest => (spelledLit? rest).map fun l => { l with negative := !l.negative }
  | .punct '#' _ _ :: .group .bracket _ _ :: rest => spelledLit? rest
  | _ => none

end

namespace SignedLit

/-- The digits of a number, behind its sign. -/
def chars (l : SignedLit) (digits : String) : List Char :=
  if l.negative then '-' :: digits.toList else digits.toList

/-- The integer of a type that a literal spells. -/
def integer? (t : IntType) (l : SignedLit) : Option Int :=
  match l.value with
  | .int digits suffix =>
    if suffix == "" || suffix == t.name then t.read? (l.chars digits) else none
  | _ => none

/-- The number that a literal spells. One without a fraction needs the suffix. -/
def float? (l : SignedLit) : Option Double :=
  match l.value with
  | .float digits suffix =>
    if suffix == "" || suffix == "f64" then Decimal.read? (l.chars digits) else none
  | .int digits suffix => if suffix == "f64" then Decimal.read? (l.chars digits) else none
  | _ => none

/-- The value of a literal where one of this type is expected. -/
def value? (types : StoredTypes) (l : SignedLit) :
    (type : KeptType types.Name) → Option (types.ValueOf type)
  | .bool =>
    match l with
    | ⟨false, .bool b⟩ => some b
    | _ => none
  | .integer => (l.integer? .i64).map Int64.ofInt
  | .float => l.float?
  | .string =>
    match l with
    | ⟨false, .str text⟩ => some text
    | _ => none
  | .number t =>
    (l.integer? t).bind fun n => if h : t.contains n = true then some ⟨n, h⟩ else none
  | .named _ => none

end SignedLit

/-! ## 3. Names -/

/-- **What the names of a program stand for**, as far as generated accessors use them. -/
structure Scope extends StoredTypes where
  /-- The expressions that are the store. -/
  isStore : List Token → Bool
  /-- An expression has no `;` in the open. -/
  closed : ∀ ts, isStore ts = true → ∀ t ∈ ts, Token.isMark ';' t = false
  /-- The types that the program gives a name. -/
  named? : List Token → Option (KeptType Name)
  /-- The values of constants of a type. -/
  constant? : (type : KeptType Name) → List Token → Option (toStoredTypes.ValueOf type)

namespace Scope

variable (scope : Scope)

/-- A value with its type. -/
abbrev Kept : Type := (type : KeptType scope.Name) × scope.ValueOf type

/-- A type, from its tokens. -/
def type? (ts : List Token) : Option (KeptType scope.Name) :=
  match ts with
  | [.ident i] => (KeptType.ofName? i.text).or (scope.named? ts)
  | _ => if Token.sameList ts stringType then some .string else scope.named? ts

/-- The value of an expression where one of this type is expected, from its tokens. -/
def value? (type : KeptType scope.Name) (ts : List Token) : Option (scope.ValueOf type) :=
  ((spelledLit? ts).bind fun l => l.value? scope.toStoredTypes type).or (scope.constant? type ts)

theorem type?_string : scope.type? stringType = some .string := by
  cbv

theorem type?_bool : scope.type? [word "bool"] = some .bool := rfl

theorem type?_i64 : scope.type? [word "i64"] = some .integer := rfl

theorem type?_f64 : scope.type? [word "f64"] = some .float := rfl

example : (spelledLit? (operator "-" ++ [parens [.literal "0x7_f" .callSite]])).map
    (fun l => l.integer? .i8) = some (some (-127)) := by
  cbv

end Scope

end Graft
