import Graft.Showcase.Preferences
import Graft.Proofs.Store.KeptProperty
import Mathlib.Data.List.Induction

/-!
# Stored properties are a record

The getters and setters that are written for properties which share a store behave like the fields
of a record, whatever the ways the properties are read in.

* `Call`: what can be done with a family of properties and their store. What a getter and a setter
  do is told from their tokens.
* `Standing`: what the last setter of a property left.
* **`accessors_refine_record`**: each getter answers what the last setter of its own property left,
  and the default if there was none or its key was removed since.
-/

namespace Graft

/-! ## 1. Calls -/

variable {ι : Type} {scope : Scope} {p : ι → KeptProperty scope}

/-- What can be done with a family of properties and their store. -/
inductive Call (p : ι → KeptProperty scope) where
  | set (i : ι) (v : scope.ValueOf (p i).type)
  | get (i : ι)
  | remove (key : String)

namespace Call

/-- The store after a call. A setter without a meaning leaves it as it is. -/
def after (s : Store) : Call p → Store
  | .set i v => (scope.leaves? (p i).setter ⟨(p i).type, v⟩ s).getD s
  | .get _ => s
  | .remove key => s.remove key

/-- What a call answers; only getters do. -/
def answer (s : Store) : Call p → Option scope.Kept
  | .get i => scope.answer? (p i).getter s
  | .set _ _ | .remove _ => none

/-- Whether a call is one of a getter. -/
def isGet : Call p → Bool
  | .get _ => true
  | .set _ _ | .remove _ => false

/-- Whether a call is one of a property's own setter, or removes what is held under its key. -/
def Changes (i : ι) : Call p → Prop
  | .set j _ => j = i
  | .get _ => False
  | .remove key => key = (p i).key

end Call

/-- The store after calls in sequence. -/
def Store.afterCalls (s : Store) : List (Call p) → Store
  | [] => s
  | c :: rest => (c.after s).afterCalls rest

/-- What calls in sequence answer. -/
def Store.answers (s : Store) : List (Call p) → List (Option scope.Kept)
  | [] => []
  | c :: rest => c.answer s :: (c.after s).answers rest

/-- **What the last setter of a property left.** The property was set to `v`, and since then it was
neither set again nor was its key removed. -/
def Standing (calls : List (Call p)) (i : ι) (v : scope.ValueOf (p i).type) : Prop :=
  ∃ earlier later, calls = earlier ++ .set i v :: later ∧ ∀ c ∈ later, ¬ c.Changes i

/-- A call that does not change the property keeps what the last setter left. -/
theorem Standing.concat {calls : List (Call p)} {i : ι} {v : scope.ValueOf (p i).type}
    (h : Standing calls i v) {c : Call p} (hc : ¬ c.Changes i) : Standing (calls ++ [c]) i v := by
  obtain ⟨earlier, later, rfl, hlater⟩ := h
  refine ⟨earlier, later ++ [c], by simp, fun c' hc' => ?_⟩
  rcases List.mem_append.mp hc' with hc' | hc'
  · exact hlater c' hc'
  · rw [List.mem_singleton.mp hc']
    exact hc

/-- **A setter stores its value under its own key**, and does nothing else. -/
theorem Call.after_set (s : Store) (i : ι) (v : scope.ValueOf (p i).type) :
    (Call.set i v : Call p).after s =
      s.setValue (p i).key ((scope.conversionOf (p i).type).toStored v) := by
  rw [after, (p i).leaves?_setter, Option.getD_some, (p i).set_eq]

/-! ## 2. Runs -/

theorem Store.afterCalls_append (s : Store) (xs ys : List (Call p)) :
    s.afterCalls (xs ++ ys) = (s.afterCalls xs).afterCalls ys := by
  induction xs generalizing s with
  | nil => rfl
  | cons c rest ih => exact ih (c.after s)

/-- The answer at a place of a run is the one in the store that the calls before it left. -/
theorem Store.answers_getElem? (s : Store) (calls : List (Call p)) (n : Nat) :
    (s.answers calls)[n]? = calls[n]?.map fun c => c.answer (s.afterCalls (calls.take n)) := by
  induction calls generalizing s n with
  | nil => rfl
  | cons c rest ih =>
    cases n with
    | zero => rfl
    | succ n => exact ih (c.after s) n

/-- Getters can be left out of a run. -/
theorem Store.afterCalls_filter (s : Store) (calls : List (Call p)) :
    s.afterCalls (calls.filter (!·.isGet)) = s.afterCalls calls := by
  induction calls generalizing s with
  | nil => rfl
  | cons c rest ih =>
    cases c with
    | set i v => exact ih _
    | get i => exact ih s
    | remove key => exact ih _

/-! ## 3. What is held along a run -/

section

variable (hkeys : ∀ i j, (p i).key = (p j).key → i = j)
include hkeys

/-- A call that does not change a property leaves alone what is held under its key. -/
theorem Call.value_after_of_not_changes {i : ι} {c : Call p} (h : ¬ c.Changes i) (s : Store) :
    (c.after s).value (p i).key = s.value (p i).key := by
  cases c with
  | set j v =>
    rw [Call.after_set]
    exact s.value_setValue_of_ne _ fun e => h (hkeys i j e).symm
  | get j => rfl
  | remove key => exact s.value_remove_of_ne fun e => h e.symm

theorem Store.value_afterCalls_of_not_changes {i : ι} (s : Store) (calls : List (Call p))
    (h : ∀ c ∈ calls, ¬ c.Changes i) :
    (s.afterCalls calls).value (p i).key = s.value (p i).key := by
  induction calls generalizing s with
  | nil => rfl
  | cons c rest ih =>
    rw [afterCalls, ih (c.after s) fun c' hc' => h c' (List.mem_cons_of_mem c hc')]
    exact Call.value_after_of_not_changes hkeys (h c List.mem_cons_self) s

/-- What the last setter left is held under the key. -/
theorem Standing.value {calls : List (Call p)} {i : ι} {v : scope.ValueOf (p i).type}
    (h : Standing calls i v) (s : Store) :
    (s.afterCalls calls).value (p i).key =
      some ((scope.conversionOf (p i).type).toStored v) := by
  obtain ⟨earlier, later, rfl, hlater⟩ := h
  rw [Store.afterCalls_append, Store.afterCalls,
    Store.value_afterCalls_of_not_changes hkeys _ later hlater, Call.after_set]
  exact Store.value_setValue_self _ _ _

/-- Where no setter left anything, nothing is held under the key. -/
theorem Store.value_afterCalls_of_not_standing {i : ι} (calls : List (Call p))
    (h : ¬ ∃ v, Standing calls i v) : (Store.empty.afterCalls calls).value (p i).key = none := by
  -- by the last call, which can change the property only by removing its key
  induction calls using List.reverseRecOn with
  | nil => rfl
  | append_singleton calls c ih =>
    rw [afterCalls_append]
    by_cases hc : c.Changes i
    · cases c with
      | set j v =>
        obtain rfl : j = i := hc
        exact absurd ⟨v, calls, [], rfl, fun _ hm => absurd hm List.not_mem_nil⟩ h
      | get j => exact absurd hc id
      | remove key =>
        obtain rfl : key = (p i).key := hc
        exact Store.value_remove_self _ _
    · have hbefore : ¬ ∃ v, Standing calls i v := fun ⟨v, hv⟩ => h ⟨v, hv.concat hc⟩
      rw [← ih hbefore]
      exact Call.value_after_of_not_changes hkeys hc _

end

/-! ## 4. The record -/

/-- **Stored properties are a record.** The getter and the setter that are written for a property are
those of an accessor, whose default is the value of the default that was given. If properties with
keys of their own are kept in one store, empty at first, then in every run of setters, getters and
removals each getter answers the value of the last call of its own setter that no removal of its
key follows, and its default if there is none; getters change nothing. -/
theorem accessors_refine_record (p : ι → KeptProperty scope)
    (hkeys : ∀ i j, (p i).key = (p j).key → i = j) (calls : List (Call p)) :
    (∀ (i : ι) (s : Store),
      scope.answer? (p i).getter s = some ⟨(p i).type, (p i).accessor.get s⟩ ∧
      ∀ v, scope.leaves? (p i).setter ⟨(p i).type, v⟩ s = some ((p i).accessor.set s v)) ∧
    (∀ n i, calls[n]? = some (.get i) →
      (∀ v, Standing (calls.take n) i v →
        (Store.empty.answers calls)[n]? = some (some ⟨(p i).type, v⟩)) ∧
      ((¬ ∃ v, Standing (calls.take n) i v) →
        (Store.empty.answers calls)[n]? = some (some ⟨(p i).type, (p i).initial⟩))) ∧
    Store.empty.afterCalls (calls.filter (!·.isGet)) = Store.empty.afterCalls calls := by
  refine ⟨fun i s => ⟨(p i).answer?_getter s, fun v => (p i).leaves?_setter v s⟩,
    fun n i hcall => ?_, Store.empty.afterCalls_filter calls⟩
  have hanswer : (Store.empty.answers calls)[n]? = some (some ⟨(p i).type,
      (p i).accessor.get (Store.empty.afterCalls (calls.take n))⟩) := by
    rw [Store.answers_getElem?, hcall, ← (p i).answer?_getter]
    rfl
  constructor
  · intro v hv
    rw [hanswer, (p i).get_of_written (hv.value hkeys Store.empty)]
  · intro hnone
    have hheld := Store.value_afterCalls_of_not_standing hkeys _ hnone
    rw [hanswer, (p i).get_of_none hheld]

/-! ## 5. A record of two properties -/

/-- What has the same atoms has the same marks in the open. -/
theorem Token.mem_atomsOf_of_isMark {c : Char} {ts : List Token} {t : Token} (mem : t ∈ ts)
    (mark : Token.isMark c t = true) : ∃ spacing, Atom.punct c spacing ∈ Token.atomsOf ts := by
  induction ts with
  | nil => nomatch mem
  | cons u ts ih =>
    rw [atomsOf]
    rcases List.mem_cons.mp mem with rfl | mem
    · cases t with
      | punct d spacing span =>
        obtain rfl : d = c := beq_iff_eq.mp mark
        exact ⟨spacing, List.mem_append_left _ (List.mem_singleton_self _)⟩
      | ident | literal | group => nomatch mark
    · obtain ⟨spacing, inside⟩ := ih mem
      exact ⟨spacing, List.mem_append_right _ inside⟩

/-- The expression of the store that all properties share. -/
def sharedStore : List Token := code ":: playtomic :: UserDefaults :: standard" ++ [parens []]

theorem sharedStore_closed (ts : List Token) (same : Token.sameList ts sharedStore = true) :
    ∀ t ∈ ts, Token.isMark ';' t = false := by
  intro t mem
  refine Bool.eq_false_iff.mpr fun mark => ?_
  obtain ⟨spacing, inside⟩ := Token.mem_atomsOf_of_isMark mem mark
  rw [beq_iff_eq.mp same] at inside
  have atoms : Token.atomsOf sharedStore =
      [.punct ':' .joint, .punct ':' .alone, .ident "playtomic", .punct ':' .joint,
        .punct ':' .alone, .ident "UserDefaults", .punct ':' .joint, .punct ':' .alone,
        .ident "standard", .opening .paren, .closing .paren] := by
    cbv
  rw [atoms] at inside
  simp at inside

/-- The theme that a path names. -/
def themeNamed? (ts : List Token) : Option Showcase.Theme :=
  if Token.sameList ts (code "Theme :: Dark") then some .dark
  else if Token.sameList ts (code "Theme :: Light") then some .light
  else none

/-- A program with the shared store and the type of themes. -/
def settingsScope : Scope where
  Name := Unit
  decEq := inferInstance
  Value _ := Showcase.Theme
  conversion _ := inferInstance
  law _ x := by cases x <;> rfl
  isStore ts := Token.sameList ts sharedStore
  closed := sharedStore_closed
  named? ts := if Token.sameList ts (code "Theme") then some (.named ()) else none
  constant?
    | .named (), ts => themeNamed? ts
    | _, _ => none

/-- A type that is written as a name. -/
def Ty.named (name : String) : Ty := .path (.mk none [.mk (.new name) .none])

/-- The declaration `fn name() -> T;`. -/
def PropertyDecl.plain (name type : String) : PropertyDecl where
  attrs := []
  vis := .inherited
  sig := { (default : Signature) with
    ident := .new name, generics := .empty, inputs := [], output := some (.named type) }
  body := none

theorem three_value : settingsScope.value? (.number .u64) [.literal "3" .callSite] =
    some (⟨3, by decide⟩ : IntOf .u64) := by
  have spelled : spelledLit? [.literal "3" .callSite] = some ⟨false, .int "3" ""⟩ := by cbv
  have three : (SignedLit.mk false (.int "3" "")).integer? .u64 = some 3 := by decide
  have value : (SignedLit.mk false (.int "3" "")).value? settingsScope.toStoredTypes
      (.number .u64) = some (⟨3, by decide⟩ : IntOf .u64) := by
    rw [SignedLit.value?, three, Option.bind_some]
    exact dif_pos (by decide)
  rw [Scope.value?, spelled, Option.bind_some, value]
  rfl

/-- The theme `Theme::Dark`. -/
def themeDefault : Expr := .path [] (.mk none [.mk (.new "Theme") .none, .mk (.new "Dark") .none])

theorem themeDefault_value :
    settingsScope.value? (.named ()) themeDefault.tokens = some Showcase.Theme.dark := by
  have tokens : themeDefault.tokens = code "Theme :: Dark" := by cbv
  have spelled : spelledLit? (code "Theme :: Dark") = none := by cbv
  have named : ∀ ts, settingsScope.constant? (.named ()) ts = themeNamed? ts := fun ts => rfl
  have theme : themeNamed? (code "Theme :: Dark") = some .dark := if_pos (Token.sameList_self _)
  rw [tokens, Scope.value?, spelled, Option.bind_none, Option.none_or, named, theme]

/-- A counter of 64 bits without a sign, three at first. -/
def counterProperty : KeptProperty settingsScope where
  arguments := [⟨some (.new "default_value"), .lit [] (.literal "3" .callSite) (.int "3" "")⟩]
  decl := .plain "counter" "u64"
  getter := _
  setter := _
  generated := Transform.storedAccess_eq_ok.mpr ⟨_, rfl, rfl⟩
  stored := Token.sameList_self _
  key := "counter"
  keyed := rfl
  default := _
  given := rfl
  access := _
  chosen := rfl
  type := .number .u64
  declared := .foreign rfl rfl (by decide) rfl
  initial := (⟨3, by decide⟩ : IntOf .u64)
  evaluates := three_value

/-- A theme, dark at first. -/
def themeProperty : KeptProperty settingsScope where
  arguments := [⟨some (.new "default_value"), themeDefault⟩]
  decl := .plain "theme" "Theme"
  getter := _
  setter := _
  generated := Transform.storedAccess_eq_ok.mpr ⟨_, rfl, rfl⟩
  stored := Token.sameList_self _
  key := "theme"
  keyed := rfl
  default := _
  given := rfl
  access := _
  chosen := rfl
  type := .named ()
  declared := .named rfl (by cbv) (by rintro ty ⟨⟩; cbv)
  initial := Showcase.Theme.dark
  evaluates := themeDefault_value

/-- The two properties. -/
def settings : Bool → KeptProperty settingsScope
  | false => counterProperty
  | true => themeProperty

/-- A run in which the counter is set to the greatest number and its key is removed later. -/
def settingsRun : List (Call settings) :=
  [.set false (⟨18446744073709551615, by decide⟩ : IntOf .u64), .set true Showcase.Theme.light,
    .get false, .remove "counter", .get false, .get true]

theorem settings_keys_ne : (settings false).key ≠ (settings true).key := by
  show "counter" ≠ "theme"
  decide

theorem settings_key_inj (i j : Bool) (h : (settings i).key = (settings j).key) : i = j := by
  cases i with
  | false =>
    cases j with
    | false => rfl
    | true => exact absurd h settings_keys_ne
  | true =>
    cases j with
    | false => exact absurd h.symm settings_keys_ne
    | true => rfl

/-- The number above every 64-bit integer with a sign comes back, and the default does once the key
is removed. -/
theorem settings_refine_record :
    (∀ i j, (settings i).key = (settings j).key → i = j) ∧
    (Store.empty.answers settingsRun)[2]? = some (some ⟨.number .u64,
      (⟨18446744073709551615, by decide⟩ : IntOf .u64)⟩) ∧
    (Store.empty.answers settingsRun)[4]? =
      some (some ⟨.number .u64, (⟨3, by decide⟩ : IntOf .u64)⟩) ∧
    (Store.empty.answers settingsRun)[5]? = some (some ⟨.named (), Showcase.Theme.light⟩) := by
  have record := (accessors_refine_record settings settings_key_inj settingsRun).2.1
  refine ⟨settings_key_inj, (record 2 false rfl).1 _ ?_, (record 4 false rfl).2 ?_,
    (record 5 true rfl).1 _ ?_⟩
  · refine ⟨[], [.set true Showcase.Theme.light], rfl, fun c hc => ?_⟩
    rw [List.mem_singleton.mp hc]
    exact Bool.noConfusion
  · rintro ⟨v, hv⟩
    have hheld := hv.value settings_key_inj Store.empty
    have hremoved :
        (Store.empty.afterCalls (settingsRun.take 4)).value (settings false).key = none :=
      Store.value_remove_self _ "counter"
    rw [hremoved] at hheld
    exact nomatch hheld
  · refine ⟨settingsRun.take 1, [.get false, .remove "counter", .get false], rfl, fun c hc => ?_⟩
    rcases List.mem_cons.mp hc with rfl | hc
    · exact id
    rcases List.mem_cons.mp hc with rfl | hc
    · exact settings_keys_ne
    · rw [List.mem_singleton.mp hc]
      exact id

end Graft
