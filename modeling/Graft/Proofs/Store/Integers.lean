import Graft.Proofs.Number.DecimalText
import Graft.Proofs.Store.Keys

/-!
# Integers of all widths share a store

An integer is held as a 64-bit integer where it is one and as its decimal text where it is not, and
three ways of reading meet it: the one of `i64`, the checked conversion and the reading of digits.
They agree.

* `IntType.ofStored?_toStored`: a type sees what was written exactly if it is a value of the type.
* **`integers_interoperate`**: an integer written as one type is read as any other type that has it
  as a value, and as no type that has not.
-/

namespace Graft

namespace IntType

/-! ## 1. The two ways of holding an integer -/

theorem toStored_of_contains {n : Int} (h : i64.contains n = true) :
    toStored n = .integer (Int64.ofInt n) := if_pos h

theorem toStored_of_not_contains {n : Int} (h : ¬ i64.contains n = true) :
    toStored n = .string (String.ofList (decimal n)) := if_neg h

/-- A 64-bit integer loses nothing on its way. -/
theorem toInt_ofInt_of_contains {n : Int} (h : i64.contains n = true) :
    (Int64.ofInt n).toInt = n := by
  have hbounds := contains_iff.mp h
  have hleast : i64.least = -2 ^ 63 := by decide
  have hgreatest : i64.greatest = 2 ^ 63 - 1 := by decide
  rw [hleast, hgreatest] at hbounds
  exact Int64.toInt_ofInt_of_le (by omega) (by omega)

theorem ofStored?_integer (t : IntType) (n : Int64) : t.ofStored? (.integer n) = t.fit? n.toInt :=
  rfl

/-- A text is no value of `i64`; here `i64` has nothing to read, since the text stands for an
integer outside its range. -/
theorem ofStored?_text (t : IntType) {n : Int} (h : ¬ i64.contains n = true) :
    t.ofStored? (.string (String.ofList (decimal n))) = t.fit? n := by
  rw [ofStored?]
  split
  · rename_i ht
    rw [eq_of_beq ht]
    exact (fit?_of_not_contains h).symm
  · rw [String.toList_ofList, read?_decimal]

/-- **A type sees what was written exactly if it is one of its values.** -/
theorem ofStored?_toStored (t : IntType) (n : Int) : t.ofStored? (toStored n) = t.fit? n := by
  by_cases h : i64.contains n = true
  · rw [toStored_of_contains h, ofStored?_integer, toInt_ofInt_of_contains h]
  · rw [toStored_of_not_contains h, ofStored?_text t h]

end IntType

/-! ## 2. Through a store -/

theorem IntOf.ofStored?_toStored {a : IntType} (b : IntType) (x : IntOf a) :
    (Storable.ofStored? (Storable.toStored x) : Option (IntOf b)) =
      if h : b.contains x.val = true then some ⟨x.val, h⟩ else none := by
  show ((b.ofStored? (IntType.toStored x.val)).bind fun n =>
    if h : b.contains n = true then some (⟨n, h⟩ : IntOf b) else none) = _
  rw [IntType.ofStored?_toStored]
  by_cases h : b.contains x.val = true
  · rw [IntType.fit?_of_contains h]
    rfl
  · rw [IntType.fit?_of_not_contains h, dif_neg h]
    rfl

theorem IntOf.ofStored?_toStored_self {t : IntType} (x : IntOf t) :
    Storable.ofStored? (Storable.toStored x) = some x := by
  rw [IntOf.ofStored?_toStored, dif_pos x.property]
  rfl

/-- **Integers of all widths interoperate.** What is written as an integer of one type is read as
the same integer of any type that has it as a value, and as nothing of any other type. The type it
was written as has it, whether it is held as an integer or as digits. -/
theorem integers_interoperate (a b : IntType) (x : IntOf a) (key : String) (s : Store) :
    (s.set key x).get (IntOf b) key =
        (if h : b.contains x.val = true then some ⟨x.val, h⟩ else none) ∧
      (s.set key x).get (IntOf a) key = some x := by
  constructor
  · rw [Store.get_set, IntOf.ofStored?_toStored]
  · rw [Store.get_set, IntOf.ofStored?_toStored_self]

end Graft
