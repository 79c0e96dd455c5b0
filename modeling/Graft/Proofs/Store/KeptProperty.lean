import Graft.Proofs.Store.AccessorCode
import Graft.Proofs.Store.Scope
import Graft.Proofs.Transform.AccessRequests
import Graft.Store.Accessor

/-!
# What generated accessors keep

The reader of a property is chosen from its default and its declared type. It is the right one: the
getter that is written gives back what the setter that is written has stored, for every type that a
property can be of.

* `GetterCode.answer?`, `SetterCode.leaves?`: what the code of a getter and of a setter does with a
  store. `Scope.answer?` and `Scope.leaves?` tell it from the tokens.
* `Reader.accessor`: the accessor that a reader belongs to; `Reader.get_of_written`: every reader
  undoes what was written.
* `KeptType.Declared`: the type of a property, from its default and its declaration;
  `KeptType.Declared.chosen_told`: the reader that is chosen suits this type.
* `KeptProperty`: a declared property with the getter and the setter that are written for it.
* **`KeptProperty.answer?_getter`**, **`KeptProperty.leaves?_setter`**: these are an accessor.
-/

namespace Graft

/-! ## 1. What the code does -/

section Code

variable (scope : Scope)

/-- What an expression reads under a key where something is held. -/
def ReaderCode.answer? (s : Store) (key : String) : ReaderCode → Option scope.Kept
  | .bool => some ⟨.bool, s.bool key⟩
  | .integer => some ⟨.integer, s.integer key⟩
  | .float => some ⟨.float, s.float key⟩
  | .string fallback =>
    ((s.string key).or (scope.value? .string fallback)).map fun text => ⟨.string, text⟩
  | .typed ty fallback => do
    let type ← scope.type? ty
    let default ← scope.value? type fallback
    return ⟨type, ((s.value key).bind (scope.conversionOf type).ofStored?).getD default⟩

/-- What a getter answers. Its code has no meaning if it speaks of another store, or if the answer is
not of the type that is stated. -/
def GetterCode.answer? (s : Store) (c : GetterCode) : Option scope.Kept := do
  let type ← scope.type? c.ty
  let answer ←
    match s.value c.key with
    | none => (scope.value? type c.absent).map fun default => ⟨type, default⟩
    | some _ => c.reader.answer? scope s c.key
  if scope.isStore c.store ∧ answer.1 = type then some answer else none

/-- What a setter leaves when it is called with a value. Its code has no meaning if it speaks of
another store, or if the value is not of the type that is stated. -/
def SetterCode.leaves? (v : scope.Kept) (s : Store) (c : SetterCode) : Option Store :=
  if scope.isStore c.store ∧ scope.type? c.ty = some v.1 then
    some (s.setValue c.key ((scope.conversionOf v.1).toStored v.2))
  else none

/-- What a getter answers, from its tokens. -/
def Scope.answer? (getter : List Token) (s : Store) : Option scope.Kept :=
  (GetterCode.read? getter).bind (GetterCode.answer? scope s)

/-- What a setter leaves when it is called with a value, from its tokens. -/
def Scope.leaves? (setter : List Token) (v : scope.Kept) (s : Store) : Option Store :=
  (SetterCode.read? setter).bind (SetterCode.leaves? scope v s)

end Code

/-! ## 2. Readers -/

namespace Accessor

theorem get_of_none {α : Type} (a : Accessor α) {s : Store} (h : s.value a.key = none) :
    a.get s = a.default := by
  rw [get, h]
  rfl

theorem get_of_some {α : Type} (a : Accessor α) {s : Store} {v : Stored}
    (h : s.value a.key = some v) : a.get s = a.read s a.key := by
  rw [get, h]
  rfl

end Accessor

namespace Reader

variable (scope : Scope)

/-- The type of the values that a reader reads. -/
def type? : Reader → Option (KeptType scope.Name)
  | .bool => some .bool
  | .integer => some .integer
  | .float => some .float
  | .string => some .string
  | .typed ty => scope.type? ty

/-- The accessor that a reader belongs to. The store has methods of its own for four types, and
reads any other type through its conversion. -/
def accessor (key : String) : Reader → (type : KeptType scope.Name) → scope.ValueOf type →
    Accessor (scope.ValueOf type)
  | .bool, .bool, d => .bool key d
  | .integer, .integer, d => .integer key d
  | .float, .float, d => .float key d
  | .string, .string, d => .string key d
  | _, type, d => @Accessor.typed _ (scope.conversionOf type) key d

variable {scope} (key : String) (r : Reader) {type : KeptType scope.Name}
  (d : scope.ValueOf type)

theorem accessor_key : (r.accessor scope key type d).key = key := by
  cases r <;> cases type <;> rfl

theorem accessor_default : (r.accessor scope key type d).default = d := by
  cases r <;> cases type <;> rfl

theorem accessor_write (x : scope.ValueOf type) :
    (r.accessor scope key type d).write x = (scope.conversionOf type).toStored x := by
  cases r <;> cases type <;> rfl

variable {r}

/-- **What a reader reads is what its accessor reads**, if its default has a value. -/
theorem answer?_code {default : Expr} (suits : r.type? scope = some type)
    (value : scope.value? type default.tokens = some d) (s : Store) :
    (r.code default).answer? scope s key = some ⟨type, (r.accessor scope key type d).read s key⟩ := by
  cases r with
  | bool | integer | float =>
    injection suits with suits
    subst suits
    rfl
  | string =>
    injection suits with suits
    subst suits
    show ((s.string key).or (scope.value? .string default.tokens)).map _ = _
    rw [value]
    show _ = some (⟨.string, (s.string key).getD d⟩ : scope.Kept)
    cases s.string key <;> rfl
  | typed ty =>
    have suits : scope.type? ty = some type := suits
    simp only [Reader.code, ReaderCode.answer?, suits, value, Option.bind_eq_bind, Option.bind_some]
    rfl

/-- **Every reader undoes what was written.** -/
theorem get_of_written (suits : r.type? scope = some type) {s : Store} {x : scope.ValueOf type}
    (held : s.value key = some ((scope.conversionOf type).toStored x)) :
    (r.accessor scope key type d).get s = x := by
  have known := scope.ofStored?_toStored type x
  rw [Accessor.get_of_some _ (by rw [accessor_key]; exact held), accessor_key]
  cases r with
  | bool =>
    injection suits with suits
    subst suits
    show s.bool key = x
    rw [Store.bool, held]
    rfl
  | integer =>
    injection suits with suits
    subst suits
    show s.integer key = x
    rw [Store.integer, held]
    rfl
  | float =>
    injection suits with suits
    subst suits
    show s.float key = x
    rw [Store.float, held]
    rfl
  | string =>
    injection suits with suits
    subst suits
    show (s.string key).getD d = x
    rw [Store.string, held]
    rfl
  | typed ty =>
    show ((s.value key).bind (scope.conversionOf type).ofStored?).getD d = x
    rw [held, Option.bind_some, known]
    rfl

end Reader

/-! ## 3. Which reader is chosen -/

/-- The types that a property can be of, by its default and by the type it is declared with. A
number is of the store's own type unless another one is declared. -/
inductive KeptType.Declared (scope : Scope) (default : Expr) (declared : Option Ty) :
    KeptType scope.Name → Prop
  | bool (literal : default.literalClass = .bool)
      (stated : ∀ ty, declared = some ty → scope.type? ty.tokens = some .bool) :
      Declared scope default declared .bool
  | integer (literal : default.literalClass = .int)
      (own : ∀ ty, declared = some ty → ty.isBare "i64" = true) :
      Declared scope default declared .integer
  | float (literal : default.literalClass = .float)
      (own : ∀ ty, declared = some ty → ty.isBare "f64" = true) :
      Declared scope default declared .float
  | string (literal : default.literalClass = .string)
      (stated : ∀ ty, declared = some ty → scope.type? ty.tokens = some .string) :
      Declared scope default declared .string
  | foreign {type : KeptType scope.Name} {own : String} {ty : Ty}
      (literal : default.literalClass.storeType? = some own) (foreign : declared = some ty)
      (other : ty.isBare own = false) (stated : scope.type? ty.tokens = some type) :
      Declared scope default declared type
  | named {type : KeptType scope.Name} {path : Path} (literal : default.literalClass = .named path)
      (named : scope.type? path.tokens = some type)
      (stated : ∀ ty, declared = some ty → scope.type? ty.tokens = some type) :
      Declared scope default declared type

/-- A type that is a bare name is the path of that name. -/
theorem Ty.eq_of_isBare {ty : Ty} {name : String} (h : ty.isBare name = true) :
    ∃ i, i.text = name ∧ ty = .path (.mk none [.mk i .none]) := by
  unfold Ty.isBare at h
  split at h
  · split at h
    · rename_i p i hp
      unfold Path.single? at hp
      split at hp
      · injection hp with hp
        rw [hp]
        exact ⟨i, beq_iff_eq.mp h, rfl⟩
      · cases hp
    · cases h
  · cases h

/-- A bare name that is known everywhere is this type. -/
theorem Scope.type?_of_isBare (scope : Scope) {ty : Ty} {name : String}
    {type : KeptType scope.Name} (bare : ty.isBare name = true)
    (known : KeptType.ofName? name = some type) : scope.type? ty.tokens = some type := by
  obtain ⟨i, rfl, rfl⟩ := Ty.eq_of_isBare bare
  have tokens : Ty.tokens (.path (.mk none [.mk i .none])) = [.ident i] := by
    simp [Ty.tokens, Path.tokens, Segment.each, Segment.tokens, PathArgs.tokens, leadingColons,
      joinTokens]
  rw [tokens]
  show (KeptType.ofName? i.text).or _ = _
  rw [known, Option.some_or]

namespace Access

/-- A default is read by its class, unless it is a number and another type is declared than the
store's own one. -/
theorem of?_class {default : Expr} {declared : Option Ty} {c : LiteralClass}
    (literal : default.literalClass = c)
    (own : ∀ name, c.storeType? = some name → ∀ ty, declared = some ty → ty.isBare name = true) :
    of? default declared = ofClass? default c := by
  have known : foreignNumber? c declared = none := by
    unfold foreignNumber?
    cases number : c.storeType? with
    | none => rfl
    | some name =>
      cases declared with
      | none => rfl
      | some ty => exact if_pos (own name number ty rfl)
  rw [of?, literal, known]

/-- A number of another type is read through the conversion of this type. -/
theorem of?_foreign {default : Expr} {own : String} {ty : Ty}
    (hclass : default.literalClass.storeType? = some own) (hty : ty.isBare own = false) :
    of? default (some ty) = some ⟨ty.tokens, default, .typed ty.tokens⟩ := by
  have hforeign : foreignNumber? default.literalClass (some ty) = some ty := by
    unfold foreignNumber?
    rw [hclass]
    exact if_neg (by rw [hty]; exact Bool.false_ne_true)
  rw [of?, hforeign]

/-- The default is kept as it was given. -/
theorem of?_default {default : Expr} {declared : Option Ty} {access : Access}
    (chosen : of? default declared = some access) : access.default = default := by
  unfold of? at chosen
  split at chosen
  · injection chosen with chosen
    rw [← chosen]
  · unfold ofClass? at chosen
    split at chosen
    all_goals first
      | injection chosen with chosen
        rw [← chosen]
      | cases chosen

end Access

namespace KeptType.Declared

variable {scope : Scope} {default : Expr} {declared : Option Ty} {type : KeptType scope.Name}
  {access : Access}

/-- How a property is read, with the type that is written for it. -/
theorem chosen_told (h : type.Declared scope default declared)
    (chosen : Access.of? default declared = some access) :
    access.reader.type? scope = some type ∧
      (declared = none → scope.type? access.ty = some type) ∧
      ∀ ty, declared = some ty → scope.type? ty.tokens = some type := by
  cases h with
  | bool literal stated =>
    rw [Access.of?_class literal nofun] at chosen
    injection chosen with chosen
    subst chosen
    exact ⟨rfl, fun _ => scope.type?_bool, stated⟩
  | integer literal own =>
    rw [Access.of?_class literal fun _ number => Option.some.inj number ▸ own] at chosen
    injection chosen with chosen
    subst chosen
    exact ⟨rfl, fun _ => scope.type?_i64, fun ty h => scope.type?_of_isBare (own ty h) rfl⟩
  | float literal own =>
    rw [Access.of?_class literal fun _ number => Option.some.inj number ▸ own] at chosen
    injection chosen with chosen
    subst chosen
    exact ⟨rfl, fun _ => scope.type?_f64, fun ty h => scope.type?_of_isBare (own ty h) rfl⟩
  | string literal stated =>
    rw [Access.of?_class literal nofun] at chosen
    injection chosen with chosen
    subst chosen
    exact ⟨rfl, fun _ => scope.type?_string, stated⟩
  | @foreign _ own ty literal foreign other stated =>
    subst foreign
    rw [Access.of?_foreign literal other] at chosen
    injection chosen with chosen
    subst chosen
    refine ⟨stated, (nomatch ·), fun t ht => ?_⟩
    injection ht with ht
    rw [← ht]
    exact stated
  | named literal named stated =>
    rw [Access.of?_class literal nofun] at chosen
    injection chosen with chosen
    subst chosen
    exact ⟨named, fun _ => named, stated⟩

end KeptType.Declared

/-! ## 4. Properties -/

/-- A declared property, with the getter and the setter that are written for it where the names of
`scope` are known. Its default has a value. -/
structure KeptProperty (scope : Scope) where
  arguments : Arguments
  decl : PropertyDecl
  getter : List Token
  setter : List Token
  generated : Transform.storedAccess.run ⟨.property decl, arguments, true⟩ =
    .ok (.just (.accessors getter setter))
  stored : scope.isStore (Transform.storeOf arguments) = true
  key : String
  keyed : Transform.keyOf arguments decl = .ok key
  default : Expr
  given : arguments.labeled "default_value" = some default
  /-- How the property is read. -/
  access : Access
  chosen : Access.of? default decl.sig.output = some access
  type : KeptType scope.Name
  declared : type.Declared scope default decl.sig.output
  /-- The value of the default. -/
  initial : scope.ValueOf type
  evaluates : scope.value? type default.tokens = some initial

namespace KeptProperty

variable {scope : Scope} (p : KeptProperty scope)

/-- The accessor that a property is kept by. -/
def accessor : Accessor (scope.ValueOf p.type) :=
  p.access.reader.accessor scope p.key p.type p.initial

theorem accessor_key : p.accessor.key = p.key := Reader.accessor_key _ _ _

/-- A setter stores the value under the key. -/
theorem set_eq (s : Store) (v : scope.ValueOf p.type) :
    p.accessor.set s v = s.setValue p.key ((scope.conversionOf p.type).toStored v) := by
  rw [Accessor.set, accessor_key, accessor, Reader.accessor_write]

/-- A getter answers the default while nothing is held. -/
theorem get_of_none {s : Store} (h : s.value p.key = none) : p.accessor.get s = p.initial := by
  rw [Accessor.get_of_none _ (by rw [accessor_key]; exact h), accessor, Reader.accessor_default]

theorem type?_reader : p.access.reader.type? scope = some p.type :=
  (p.declared.chosen_told p.chosen).1

theorem get_of_written {s : Store} {x : scope.ValueOf p.type}
    (held : s.value p.key = some ((scope.conversionOf p.type).toStored x)) :
    p.accessor.get s = x :=
  Reader.get_of_written p.key p.initial p.type?_reader held

/-- What is written for a property, and that its type is stated. -/
theorem written : ∃ ty, scope.type? ty = some p.type ∧
    GetterCode.read? p.getter = some ⟨ty, Transform.storeOf p.arguments, p.key, p.default.tokens,
      p.access.reader.code p.default⟩ ∧
    SetterCode.read? p.setter = some ⟨ty, Transform.storeOf p.arguments, p.key⟩ := by
  obtain ⟨a, made, reply⟩ := Transform.storedAccess_eq_ok.mp p.generated
  injection reply with addition
  injection addition with getter setter
  obtain ⟨-, -, default, access, key, given, keyed, chosen, parts⟩ := Transform.accessorsOf_made made
  rw [p.given, Option.some_inj] at given
  rw [p.keyed, Except.ok.injEq] at keyed
  subst given keyed
  rw [p.chosen, Option.some_inj] at chosen
  subst chosen
  have closed : ∀ t ∈ a.store, Token.isMark ';' t = false := by
    rw [parts]
    exact scope.closed _ p.stored
  have same : a.access.default = p.default := by
    rw [parts]
    exact Access.of?_default p.chosen
  obtain ⟨-, unstated, stated⟩ := p.declared.chosen_told p.chosen
  refine ⟨a.ty, ?_, ?_, ?_⟩
  · rw [parts]
    cases output : p.decl.sig.output with
    | none => exact unstated output
    | some ty => exact stated ty output
  · rw [getter, GetterCode.read?_getter a closed, same, parts]
  · rw [setter, SetterCode.read?_setter a closed, parts]

/-- **The getter that is written is the one of the accessor.** -/
theorem answer?_getter (s : Store) :
    scope.answer? p.getter s = some ⟨p.type, p.accessor.get s⟩ := by
  obtain ⟨ty, stated, getter, -⟩ := p.written
  rw [Scope.answer?, getter, Option.bind_some, GetterCode.answer?]
  dsimp only
  simp only [stated, Option.bind_eq_bind, Option.bind_some]
  cases held : s.value p.key with
  | none =>
    rw [p.get_of_none held]
    simp [p.evaluates, p.stored]
  | some v =>
    rw [p.accessor.get_of_some (by rw [accessor_key]; exact held), accessor_key]
    simp only [Reader.answer?_code p.key p.initial p.type?_reader p.evaluates s, Option.bind_some,
      p.stored, and_self, if_true]
    rfl

/-- **The setter that is written is the one of the accessor.** -/
theorem leaves?_setter (v : scope.ValueOf p.type) (s : Store) :
    scope.leaves? p.setter ⟨p.type, v⟩ s = some (p.accessor.set s v) := by
  obtain ⟨ty, stated, -, setter⟩ := p.written
  rw [Scope.leaves?, setter, Option.bind_some, SetterCode.leaves?, if_pos ⟨p.stored, stated⟩,
    p.set_eq]

end KeptProperty

end Graft
