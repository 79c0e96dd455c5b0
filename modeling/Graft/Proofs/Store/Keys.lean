import Graft.Store.Basic

/-!
# What is held under a key

The two changes of a store, seen through `Store.value`: a change of one key shows under this key and
under no other.
-/

namespace Graft.Store

theorem value_remove_self (s : Store) (key : String) : (s.remove key).value key = none := by
  have hnone : (s.entries.filter fun e => e.1 != key).find? (fun e => e.1 == key) = none := by
    rw [List.find?_eq_none]
    intro e he
    have := (List.mem_filter.mp he).2
    simpa using this
  rw [value, remove, hnone]
  rfl

theorem value_remove_of_ne (s : Store) {key other : String} (h : other ≠ key) :
    (s.remove key).value other = s.value other := by
  unfold value remove
  rw [List.find?_filter]
  have hsame : (fun e : String × Stored => decide ((e.1 != key) = true ∧ (e.1 == other) = true)) =
      fun e => e.1 == other := by
    funext e
    by_cases he : e.1 = other
    · simp [he, h]
    · simp [he]
  rw [hsame]

theorem value_setValue_self (s : Store) (key : String) (v : Stored) :
    (s.setValue key v).value key = some v := by
  rw [value, setValue, List.find?_cons_of_pos (by simp)]
  rfl

theorem value_setValue_of_ne (s : Store) {key other : String} (v : Stored) (h : other ≠ key) :
    (s.setValue key v).value other = s.value other := by
  have hskip : (s.setValue key v).value other = (s.remove key).value other := by
    rw [value, setValue, List.find?_cons_of_neg (by simpa using h.symm)]
    rfl
  rw [hskip, value_remove_of_ne s h]

theorem get_set {α β : Type} [Storable α] [Storable β] (s : Store) (key : String) (a : α) :
    (s.set key a).get β key = Storable.ofStored? (Storable.toStored a) := by
  rw [get, set, value_setValue_self]
  rfl

end Graft.Store
