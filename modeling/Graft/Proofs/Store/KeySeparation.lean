import Graft.Proofs.Store.Keys

/-!
# Keys do not interfere

What happens to one key of a store is told by the operations on this key alone, whether they reach
the store directly or through a reference.

* `KeyValueStore`: what a store can do; a store itself and a reference to one are the two instances.
* `KeyOp.perform_store`, `KeyOp.perform_reference`: an operation tells something about what is held
  under its key, and may leave something else there. This is all that it does, on both ways.
* `KeyedSystem`: steps that look at one key and change at most this key. `KeyedSystem.run_filter`:
  the steps on one key answer as if there were no others.
* **`keys_do_not_interfere`**: the two together.
-/

namespace Graft

universe u v

/-! ## 1. Two ways to a store -/

/-- **What a key-value store can do.** It has to say what it holds and how it is changed; the
readers follow from that unless the store has its own. -/
class KeyValueStore (σ : Type) where
  value : σ → String → Option Stored
  setValue : σ → String → Stored → σ
  remove : σ → String → σ
  bool : σ → String → Bool := fun s key =>
    match value s key with
    | some v => v.asBool
    | none => false
  integer : σ → String → Int64 := fun s key =>
    match value s key with
    | some v => v.asInteger
    | none => 0
  float : σ → String → Double := fun s key =>
    match value s key with
    | some v => v.asFloat
    | none => 0
  string : σ → String → Option String := fun s key => (value s key).map Stored.asString
  get : (α : Type) → [Storable α] → σ → String → Option α := fun _ _ s key =>
    (value s key).bind Storable.ofStored?
  set : {α : Type} → [Storable α] → σ → String → α → σ := fun s key a =>
    setValue s key (Storable.toStored a)

instance : KeyValueStore Store where
  value := Store.value
  setValue := Store.setValue
  remove := Store.remove
  bool := Store.bool
  integer := Store.integer
  float := Store.float
  string := Store.string
  get := Store.get
  set := Store.set

/-- A reference to a store. -/
structure Reference (σ : Type) where
  target : σ

/-- What is done through a reference is done to the store behind it. -/
instance {σ : Type} [KeyValueStore σ] : KeyValueStore (Reference σ) where
  value r key := KeyValueStore.value r.target key
  setValue r key v := ⟨KeyValueStore.setValue r.target key v⟩
  remove r key := ⟨KeyValueStore.remove r.target key⟩

/-! ## 2. Operations -/

/-- What can be done with one key, for values of any type that can be stored. -/
inductive KeyOp : Type 1 where
  | value
  | remove
  | setValue (v : Stored)
  | bool
  | integer
  | float
  | string
  | get (α : Type) (conversion : Storable α)
  | set (α : Type) (conversion : Storable α) (a : α)

/-- What an operation answers. -/
inductive KeyReply : Type 1 where
  | done
  | value (v : Option Stored)
  | bool (b : Bool)
  | integer (n : Int64)
  | float (x : Double)
  | string (s : Option String)
  | typed {α : Type} (a : Option α)

namespace KeyOp

/-- Whether an operation only looks. -/
def isReading : KeyOp → Bool
  | .value | .bool | .integer | .float | .string | .get _ _ => true
  | .remove | .setValue _ | .set _ _ _ => false

/-- An operation on a store of any kind: its answer, and the store afterwards. -/
def perform {σ : Type} [KeyValueStore σ] (s : σ) (key : String) : KeyOp → KeyReply × σ
  | .value => (.value (KeyValueStore.value s key), s)
  | .remove => (.done, KeyValueStore.remove s key)
  | .setValue v => (.done, KeyValueStore.setValue s key v)
  | .bool => (.bool (KeyValueStore.bool s key), s)
  | .integer => (.integer (KeyValueStore.integer s key), s)
  | .float => (.float (KeyValueStore.float s key), s)
  | .string => (.string (KeyValueStore.string s key), s)
  | .get α _ => (.typed (KeyValueStore.get α s key), s)
  | .set _ _ a => (.done, KeyValueStore.set s key a)

/-- **What an operation tells of what is held.** Nothing held reads as false, as zero or as no
value. -/
def tells (held : Option Stored) : KeyOp → KeyReply
  | .value => .value held
  | .bool => .bool (held.elim false Stored.asBool)
  | .integer => .integer (held.elim 0 Stored.asInteger)
  | .float => .float (held.elim 0 Stored.asFloat)
  | .string => .string (held.map Stored.asString)
  | .get _ conversion => .typed (held.bind conversion.ofStored?)
  | .remove | .setValue _ | .set _ _ _ => .done

/-- What an operation leaves under its key, if it changes anything. -/
def leaves? : KeyOp → Option (Option Stored)
  | .remove => some none
  | .setValue v => some (some v)
  | .set _ conversion a => some (some (conversion.toStored a))
  | .value | .bool | .integer | .float | .string | .get _ _ => none

end KeyOp

/-- The store that holds this under a key, or nothing. -/
def Store.put (s : Store) (key : String) : Option Stored → Store
  | some v => s.setValue key v
  | none => s.remove key

theorem Store.value_put_self (s : Store) (key : String) (held : Option Stored) :
    (s.put key held).value key = held := by
  cases held with
  | none => exact s.value_remove_self key
  | some v => exact s.value_setValue_self key v

theorem Store.value_put_of_ne (s : Store) {key other : String} (held : Option Stored)
    (h : other ≠ key) : (s.put key held).value other = s.value other := by
  cases held with
  | none => exact s.value_remove_of_ne h
  | some v => exact s.value_setValue_of_ne v h

/-- The store after something was left under a key, or nothing was. -/
def Store.afterLeaving (s : Store) (key : String) (left : Option (Option Stored)) : Store :=
  left.elim s (s.put key)

namespace KeyOp

/-- What a value is read as, nothing held being read as `none` says. -/
theorem match_eq_elim {β : Type} (held : Option Stored) (b : β) (f : Stored → β) :
    (match held with
      | some v => f v
      | none => b) = held.elim b f := by
  cases held <;> rfl

/-- **Directly**, an operation tells something of what is held and leaves what it leaves. -/
theorem perform_store (s : Store) (key : String) (op : KeyOp) :
    op.perform s key = (op.tells (s.value key), s.afterLeaving key op.leaves?) := by
  cases op with
  | bool => exact congrArg (fun b => (KeyReply.bool b, s)) (match_eq_elim _ _ _)
  | integer => exact congrArg (fun n => (KeyReply.integer n, s)) (match_eq_elim _ _ _)
  | float => exact congrArg (fun x => (KeyReply.float x, s)) (match_eq_elim _ _ _)
  | value | string | get | remove | setValue | set => rfl

/-- **Through a reference**, it does the same to the store behind it. -/
theorem perform_reference (s : Store) (key : String) (op : KeyOp) :
    op.perform (⟨s⟩ : Reference Store) key =
      (op.tells (s.value key), ⟨s.afterLeaving key op.leaves?⟩) := by
  cases op with
  | bool => exact congrArg (fun b => (KeyReply.bool b, _)) (match_eq_elim _ _ _)
  | integer => exact congrArg (fun n => (KeyReply.integer n, _)) (match_eq_elim _ _ _)
  | float => exact congrArg (fun x => (KeyReply.float x, _)) (match_eq_elim _ _ _)
  | value | string | get | remove | setValue | set => rfl

end KeyOp

/-- The way on which an operation reaches its store. -/
inductive Route where
  | direct
  | reference

/-- An operation on a key of a store. -/
structure StoreCall : Type 1 where
  route : Route
  key : String
  op : KeyOp

/-- A call: its answer, and the store afterwards. -/
def StoreCall.perform (s : Store) (c : StoreCall) : KeyReply × Store :=
  match c.route with
  | .direct => c.op.perform s c.key
  | .reference =>
    let (reply, r) := c.op.perform (⟨s⟩ : Reference Store) c.key
    (reply, r.target)

theorem StoreCall.perform_eq (s : Store) (c : StoreCall) :
    c.perform s = (c.op.tells (s.value c.key), s.afterLeaving c.key c.op.leaves?) := by
  unfold StoreCall.perform
  split
  · rw [KeyOp.perform_store]
  · rw [KeyOp.perform_reference]

/-! ## 3. Steps that keep to one key -/

/-- **Steps that look at one key and change at most this key.** -/
structure KeyedSystem (C : Type u) (A : Type v) where
  key : C → String
  step : Store → C → A × Store
  /-- The answer depends on what is held under the key. -/
  answer_local : ∀ {s t : Store} {c : C}, s.value (key c) = t.value (key c) →
    (step s c).1 = (step t c).1
  /-- So does what is held there afterwards. -/
  value_local : ∀ {s t : Store} {c : C}, s.value (key c) = t.value (key c) →
    (step s c).2.value (key c) = (step t c).2.value (key c)
  /-- Nothing happens to any other key. -/
  frame : ∀ {s : Store} {c : C} {k : String}, k ≠ key c → (step s c).2.value k = s.value k

namespace KeyedSystem

variable {C : Type u} {A : Type v} (sys : KeyedSystem C A)

/-- Steps in sequence, each with its answer. -/
def run (s : Store) : List C → List (C × A)
  | [] => []
  | c :: rest => (c, (sys.step s c).1) :: run (sys.step s c).2 rest

/-- The store after steps in sequence. -/
def after (s : Store) : List C → Store
  | [] => s
  | c :: rest => after (sys.step s c).2 rest

/-- **The steps on one key answer as if there were no others**: two stores that agree on the key
give the same answers on it, one in the whole run and one in the run without the other keys. -/
theorem run_filter {s t : Store} {k : String} (h : s.value k = t.value k) (cs : List C) :
    (sys.run s cs).filter (fun p => sys.key p.1 == k) =
      sys.run t (cs.filter fun c => sys.key c == k) := by
  induction cs generalizing s t with
  | nil => rfl
  | cons c rest ih =>
    by_cases hk : sys.key c = k
    · subst hk
      simp only [run, List.filter_cons, beq_self_eq_true, if_true]
      rw [sys.answer_local h, ih (sys.value_local h)]
    · have hneg : (sys.key c == k) = false := beq_false_of_ne hk
      simp only [run, List.filter_cons, hneg, Bool.false_eq_true, if_false]
      exact ih ((sys.frame fun e => hk e.symm).trans h)

/-- The answer at a place of a run is the one in the store that the steps before it left. -/
theorem run_getElem? (s : Store) (cs : List C) (n : Nat) :
    (sys.run s cs)[n]? = cs[n]?.map fun c => (c, (sys.step (sys.after s (cs.take n)) c).1) := by
  induction cs generalizing s n with
  | nil => rfl
  | cons c rest ih =>
    cases n with
    | zero => rfl
    | succ n => exact ih (sys.step s c).2 n

end KeyedSystem

/-! ## 4. Calls -/

/-- Calls keep to their keys. -/
def StoreCall.system : KeyedSystem StoreCall KeyReply where
  key := StoreCall.key
  step s c := c.perform s
  answer_local h := by
    rw [perform_eq, perform_eq, h]
  value_local {s t c} h := by
    rw [perform_eq, perform_eq]
    cases c.op.leaves? with
    | none => exact h
    | some left => exact (s.value_put_self c.key left).trans (t.value_put_self c.key left).symm
  frame {s c k} h := by
    rw [perform_eq]
    cases c.op.leaves? with
    | none => rfl
    | some left => exact s.value_put_of_ne left h

/-- Calls in sequence, each with its answer. -/
def Store.replies (s : Store) (calls : List StoreCall) : List (StoreCall × KeyReply) :=
  StoreCall.system.run s calls

/-- What a call leaves under a key, if it changes anything there. -/
def StoreCall.leaves? (k : String) (c : StoreCall) : Option (Option Stored) :=
  if c.key = k then c.op.leaves? else none

/-- **What the last change left under a key**: a value, nothing if the key was removed, and what was
held at first if there was no change. -/
def lastLeft (first : Option Stored) (k : String) (calls : List StoreCall) : Option Stored :=
  (calls.reverse.findSome? (StoreCall.leaves? k)).getD first

theorem lastLeft_cons (first : Option Stored) (k : String) (c : StoreCall)
    (calls : List StoreCall) :
    lastLeft first k (c :: calls) = lastLeft ((c.leaves? k).getD first) k calls := by
  rw [lastLeft, List.reverse_cons, List.findSome?_append, List.findSome?_singleton, lastLeft]
  cases calls.reverse.findSome? (StoreCall.leaves? k) with
  | none => rfl
  | some left => rfl

theorem StoreCall.value_perform (s : Store) (c : StoreCall) (k : String) :
    (c.perform s).2.value k = (c.leaves? k).getD (s.value k) := by
  rw [perform_eq, StoreCall.leaves?]
  by_cases hk : c.key = k
  · subst hk
    rw [if_pos rfl]
    cases c.op.leaves? with
    | none => rfl
    | some left => exact s.value_put_self c.key left
  · rw [if_neg hk]
    cases c.op.leaves? with
    | none => rfl
    | some left => exact s.value_put_of_ne left fun e => hk e.symm

/-- What is held along a run. -/
theorem StoreCall.value_after (s : Store) (k : String) (calls : List StoreCall) :
    (system.after s calls).value k = lastLeft (s.value k) k calls := by
  induction calls generalizing s with
  | nil => rfl
  | cons c rest ih =>
    rw [lastLeft_cons, ← value_perform]
    exact ih (c.perform s).2

theorem StoreCall.perform_of_isReading (s : Store) {c : StoreCall} (h : c.op.isReading = true) :
    (c.perform s).2 = s := by
  have hleaves : c.op.leaves? = none := by
    cases hop : c.op with
    | value | bool | integer | float | string | get => rfl
    | remove | setValue | set =>
      rw [hop] at h
      cases h
  rw [perform_eq, hleaves]
  rfl

/-! ## 5. The operations of a run -/

/-- The operations of a run of `Store.run` keep to their keys. -/
def Store.system : KeyedSystem (String × Store.Op) Store.Answer where
  key := Prod.fst
  step s c := s.step c.1 c.2
  answer_local {s t c} h := by
    obtain ⟨key, op⟩ := c
    cases op with
    | value => exact congrArg Answer.value h
    | remove =>
      exact congrArg Answer.value ((s.value_remove_self key).trans (t.value_remove_self key).symm)
    | setValue v =>
      exact congrArg Answer.value
        ((s.value_setValue_self key v).trans (t.value_setValue_self key v).symm)
    | set v =>
      exact congrArg Answer.value
        ((s.value_setValue_self key _).trans (t.value_setValue_self key _).symm)
    | bool | integer | float | string | readers | get =>
      simp only [Store.step, Store.after, Store.bool, Store.integer, Store.float, Store.string, h]
  value_local {s t c} h := by
    obtain ⟨key, op⟩ := c
    cases op with
    | remove => exact (s.value_remove_self key).trans (t.value_remove_self key).symm
    | setValue v => exact (s.value_setValue_self key v).trans (t.value_setValue_self key v).symm
    | set v => exact (s.value_setValue_self key _).trans (t.value_setValue_self key _).symm
    | value | bool | integer | float | string | readers | get => exact h
  frame {s c k} h := by
    obtain ⟨key, op⟩ := c
    cases op with
    | remove => exact s.value_remove_of_ne h
    | setValue v => exact s.value_setValue_of_ne v h
    | set v => exact s.value_setValue_of_ne _ h
    | value | bool | integer | float | string | readers | get => rfl

theorem Store.run_eq (s : Store) (ops : List (String × Store.Op)) :
    s.run ops = (Store.system.run s ops).map (·.2) := by
  induction ops generalizing s with
  | nil => rfl
  | cons c rest ih =>
    obtain ⟨key, op⟩ := c
    exact congrArg (_ :: ·) (ih _)

theorem Store.zip_run (s : Store) (ops : List (String × Store.Op)) :
    ops.zip (s.run ops) = Store.system.run s ops := by
  induction ops generalizing s with
  | nil => rfl
  | cons c rest ih =>
    obtain ⟨key, op⟩ := c
    exact congrArg (_ :: ·) (ih _)

/-! ## 6. Separation -/

/-- **Keys do not interfere.** In every run of operations on any keys, directly or through a
reference: the operations on a key answer as in the run without all operations on other keys; each
of them tells what it tells of the value that was last left under its key, a store that is empty at
first holding nothing there; and readers change nothing under any key. -/
theorem keys_do_not_interfere (s : Store) (k : String) :
    (∀ calls : List StoreCall,
      (s.replies calls).filter (fun p => p.1.key == k) =
        s.replies (calls.filter fun c => c.key == k)) ∧
    (∀ ops : List (String × Store.Op),
      ((ops.zip (s.run ops)).filter (fun p => p.1.1 == k)).map (·.2) =
        s.run (ops.filter fun op => op.1 == k)) ∧
    (∀ (calls : List StoreCall) (n : Nat) (c : StoreCall), calls[n]? = some c → c.key = k →
      (s.replies calls)[n]? = some (c, c.op.tells (lastLeft (s.value k) k (calls.take n)))) ∧
    Store.empty.value k = none ∧
    (∀ c : StoreCall, c.op.isReading = true → (c.perform s).2.value k = s.value k) := by
  refine ⟨StoreCall.system.run_filter rfl, fun ops => ?_, fun calls n c hc hk => ?_, rfl,
    fun c hc => ?_⟩
  · rw [Store.zip_run, Store.run_eq]
    exact congrArg (List.map (·.2)) (Store.system.run_filter rfl ops)
  · subst hk
    rw [Store.replies, KeyedSystem.run_getElem?, hc, ← StoreCall.value_after]
    show some (c, (c.perform _).1) = _
    rw [StoreCall.perform_eq]
  · rw [StoreCall.perform_of_isReading s hc]

/-- Calls on two keys, in turns and on both ways. -/
def mixedCalls : List StoreCall :=
  [⟨.direct, "count", .set (IntOf .u8) inferInstance ⟨7, by decide⟩⟩,
    ⟨.reference, "name", .setValue (.string "x")⟩, ⟨.reference, "count", .integer⟩,
    ⟨.direct, "name", .remove⟩, ⟨.reference, "count", .remove⟩, ⟨.direct, "count", .integer⟩]

/-- The count is seen through a reference although another key was set in between, and it is gone
once its own key was removed. -/
theorem mixedCalls_do_not_interfere :
    (Store.empty.replies mixedCalls)[2]? =
      some (⟨.reference, "count", .integer⟩, .integer 7) ∧
    (Store.empty.replies mixedCalls)[5]? =
      some (⟨.direct, "count", .integer⟩, .integer 0) ∧
    (KeyOp.integer.isReading = true ∧
      ((⟨.direct, "count", .integer⟩ : StoreCall).perform Store.empty).2.value "name" =
        Store.empty.value "name") := by
  have count := (keys_do_not_interfere Store.empty "count").2.2.1 mixedCalls
  have name := (keys_do_not_interfere Store.empty "name").2.2.2.2
  exact ⟨count 2 _ rfl rfl, count 5 _ rfl rfl, rfl, name ⟨.direct, "count", .integer⟩ rfl⟩

end Graft
