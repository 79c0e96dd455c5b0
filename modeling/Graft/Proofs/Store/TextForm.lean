import Graft.Proofs.Store.IntegerReaders

/-!
# Whole numbers and their texts

A preference may hold a whole number as such, as a truth value, or as a text that was typed in. The
readers have a way of their own for each form, and they see the same number in all of them.

* `Stored.Whole`: a value that is a whole number; a truth value counts as one or zero.
* `Stored.Whole.asBool_eq` and its siblings: what the readers make of such a value.
* `Stored.boolOfText_decimal` and its siblings: what they make of the decimal text of a number.
* `Store.ReadsAlike`: two stores in which the readers see the same under a key.
* **`text_form_reads_alike`**: a whole number may be replaced by the text it is read as, with blanks
  around it or not.
-/

namespace Graft

namespace Stored

open IntType

/-! ## 1. Whole numbers -/

/-- A value that is a whole number: an integer, or a truth value, which counts as one or zero. -/
inductive Whole : Stored → Int64 → Prop
  | truth (b : Bool) : Whole (.bool b) (if b then 1 else 0)
  | integer (n : Int64) : Whole (.integer n) n

namespace Whole

variable {v : Stored} {n : Int64} (h : v.Whole n)

include h

theorem asBool_eq : v.asBool = (n != 0) := by
  cases h with
  | truth b => cases b <;> rfl
  | integer n => rfl

theorem asInteger_eq : v.asInteger = n := by
  cases h with
  | truth b => rfl
  | integer n => rfl

theorem asFloat_eq : v.asFloat = Double.ofInt n.toInt := by
  cases h with
  | truth b => cases b <;> rfl
  | integer n => rfl

theorem asString_eq : v.asString = String.ofList (decimal n.toInt) := by
  cases h with
  | truth b =>
    rw [ofList_decimal]
    cases b <;> rfl
  | integer n => rfl

end Whole

/-! ## 2. The text of a number -/

theorem contains_toInt (n : Int64) : i64.contains n.toInt = true :=
  contains_i64_iff.mpr ⟨n.le_toInt, by have := n.toInt_lt; omega⟩

theorem read?_toInt (n : Int64) : i64.read? (decimal n.toInt) = some n.toInt := by
  rw [read?_decimal, fit?_of_contains (contains_toInt n)]

theorem boolOfText_decimal (n : Int64) : boolOfText (decimal n.toInt) = (n != 0) := by
  have htrue : isWord "true" (decimal n.toInt) = false :=
    isWord_decimal rfl (by decide) (by decide) n.toInt
  have hyes : isWord "yes" (decimal n.toInt) = false :=
    isWord_decimal rfl (by decide) (by decide) n.toInt
  rw [boolOfText, htrue, hyes, read?_toInt, Bool.eq_iff_iff]
  simp [← Int64.toInt_inj]

theorem integerOfText_toInt (n : Int64) : integerOfText (decimal n.toInt) = n := by
  rw [integerOfText, read?_toInt]
  exact Int64.ofInt_toInt n

/-- The text is read as the number nearest to the integer, which is also what the integer itself is
rounded to. -/
theorem floatOfText_decimal (n : Int64) : floatOfText (decimal n.toInt) = Double.ofInt n.toInt := by
  have few := IntType.length_digitsOf_le (contains_toInt n)
  rw [floatOfText, Decimal.read?_decimal (Nat.le_trans few (by decide)), Option.getD_some]

end Stored

/-! ## 3. Through a store -/

namespace Store

/-- The readers that convert see the same under a key in two stores. -/
structure ReadsAlike (s t : Store) (key : String) : Prop where
  bool : s.bool key = t.bool key
  integer : s.integer key = t.integer key
  float : s.float key = t.float key

/-- A text that is that of a whole number, blanks apart, is read as the number. -/
theorem readsAlike_of_text {s t : Store} {key : String} {v : Stored} {n : Int64} {text : String}
    (held : t.value key = some v) (whole : v.Whole n) (typed : s.value key = some (.string text))
    (spells : trimBlanks text.toList = decimal n.toInt) : s.ReadsAlike t key where
  bool := by
    simp only [Store.bool, held, typed, whole.asBool_eq]
    rw [Stored.asBool, spells, Stored.boolOfText_decimal]
  integer := by
    simp only [Store.integer, held, typed, whole.asInteger_eq]
    rw [Stored.asInteger, spells, Stored.integerOfText_toInt]
  float := by
    simp only [Store.float, held, typed, whole.asFloat_eq]
    rw [Stored.asFloat, spells, Stored.floatOfText_decimal]

end Store

/-- **A whole number may be replaced by its text.** If a store holds an integer or a truth value
under a key, there is a text that it is read as; with this text under the key instead, all readers
answer as before, and those that convert do so also if there are blanks around the text. -/
theorem text_form_reads_alike {s : Store} {key : String} {v : Stored} {n : Int64}
    (held : s.value key = some v) (whole : v.Whole n) :
    ∃ text, s.string key = some text ∧
      (s.setValue key (.string text)).ReadsAlike s key ∧
      (s.setValue key (.string text)).string key = some text ∧
      ∀ front back : List Char, (∀ c ∈ front, isBlank c = true) → (∀ c ∈ back, isBlank c = true) →
        (s.setValue key (.string (String.ofList (front ++ text.toList ++ back)))).ReadsAlike s
          key := by
  have typed : ∀ text, (s.setValue key (.string text)).value key = some (.string text) :=
    fun text => s.value_setValue_self key (.string text)
  refine ⟨String.ofList (decimal n.toInt), ?_, ?_, ?_, fun front back blank blank' => ?_⟩
  · rw [Store.string, held, Option.map_some, whole.asString_eq]
  · refine Store.readsAlike_of_text held whole (typed _) ?_
    rw [String.toList_ofList, trimBlanks_decimal]
  · rw [Store.string, typed]
    rfl
  · refine Store.readsAlike_of_text held whole (typed _) ?_
    rw [String.toList_ofList, String.toList_ofList, trimBlanks_decimal_padded _ blank blank']

/-- The least positive integer that is no number of 64 bits. -/
def firstRounded : Int64 := 9007199254740993

/-- A store that holds it. -/
def roundedStore : Store := Store.empty.setValue "k" (.integer firstRounded)

/-- The integer and its text between blanks are rounded to the same number. -/
theorem firstRounded_text_reads_alike :
    roundedStore.value "k" = some (.integer firstRounded) ∧
    roundedStore.string "k" = some "9007199254740993" ∧
    (roundedStore.setValue "k" (.string "\u2003\t9007199254740993\u3000")).float "k" =
      roundedStore.float "k" := by
  have held : roundedStore.value "k" = some (.integer firstRounded) :=
    Store.value_setValue_self _ _ _
  obtain ⟨text, read, -, -, padded⟩ := text_form_reads_alike held (.integer firstRounded)
  have written : roundedStore.string "k" = some "9007199254740993" := by
    rw [Store.string, held, Option.map_some, (Stored.Whole.integer firstRounded).asString_eq,
      ofList_decimal]
    rfl
  obtain rfl : text = "9007199254740993" := Option.some.inj (read.symm.trans written)
  have front : ∀ c ∈ ['\u2003', '\t'], isBlank c = true := by simp [isBlank]
  have back : ∀ c ∈ ['\u3000'], isBlank c = true := by simp [isBlank]
  exact ⟨held, written, (padded _ _ front back).float⟩

end Graft
