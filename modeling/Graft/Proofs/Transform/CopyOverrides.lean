import Graft.Nullable
import Graft.Proofs.Expansion.Placement
import Graft.Proofs.Grammar.StructFields
import Graft.Proofs.Method.Reading
import Graft.Proofs.Tree.TypeShapes

/-!
# A copy overrides field by field

The method `copy` takes one replacement for each field and ends in a struct literal. What the
literal means is told from its tokens: each of its entries picks between a parameter and a member of
`self`, which are looked up by their names, and sets a member of the result.

* `FieldKind`: a field holds a value or an optional one; `FieldKind.override` is what a replacement
  makes of it, `FieldKind.overriding` one replacement after another.
* `structLiteral?`: the entries of a struct literal, read from its tokens; `Initializer.evaluate`:
  what an entry sets, and `Means`: what a literal makes of the current value.
* `means_iff`: a literal with one entry of its own for each field overrides field by field.
* **`copy_overrides_fields`**: such a literal is written for every struct that was read.
-/

namespace Graft

/-! ## 1. Replacements -/

/-- Whether a field holds a value or an optional one. -/
inductive FieldKind where
  | plain
  | optional
deriving DecidableEq, Repr

namespace FieldKind

variable {V : Type}

/-- What a field holds. -/
def Value (V : Type) : FieldKind → Type
  | .plain => V
  | .optional => Option V

/-- What may replace it. An optional value can also be cleared, which is not to leave it alone. -/
def Replacement (V : Type) : FieldKind → Type
  | .plain => Option V
  | .optional => Nullable V

/-- What a field holds behind a replacement: what is given, or else what it held. -/
def override : (k : FieldKind) → k.Replacement V → k.Value V → k.Value V
  | .plain, some a, _ => a
  | .plain, none, current => current
  | .optional, .value a, _ => some a
  | .optional, .null, _ => none
  | .optional, .unset, current => current

/-- The replacement that leaves everything as it is. -/
def unset : (k : FieldKind) → k.Replacement V
  | .plain => none
  | .optional => .unset

/-- A replacement that overrides an earlier one: what it gives, or else what the earlier one
gave. -/
def overriding : (k : FieldKind) → k.Replacement V → k.Replacement V → k.Replacement V
  | .plain, some a, _ => some a
  | .plain, none, earlier => earlier
  | .optional, .value a, _ => .value a
  | .optional, .null, _ => .null
  | .optional, .unset, earlier => earlier

theorem override_unset (k : FieldKind) (current : k.Value V) :
    k.override k.unset current = current := by
  cases k <;> rfl

/-- Two replacements in turn come to one, the later overriding the earlier. -/
theorem override_overriding (k : FieldKind) (later earlier : k.Replacement V)
    (current : k.Value V) : k.override (k.overriding later earlier) current =
      k.override later (k.override earlier current) := by
  cases k with
  | plain => cases later <;> rfl
  | optional => cases later <;> rfl

end FieldKind

/-! ## 2. Fields -/

/-- A member of a struct, by its name or by its place. -/
inductive MemberName where
  | named (text : String)
  | place (text : String)
deriving DecidableEq, Repr

/-- The kind of a field of this type: one that is written `Option<T>` is optional. -/
def Ty.fieldKind (t : Ty) : FieldKind :=
  match Ty.unwrap? "Option" t with
  | some _ => .optional
  | none => .plain

namespace Field

/-- How a field is reached; fields without a name are counted. -/
def memberName (i : Nat) (f : Field) : MemberName :=
  match f.ident with
  | some x => .named x.unraw
  | none => .place (toString i)

/-- The name of the parameter for a field. -/
def parameterName (i : Nat) (f : Field) : String :=
  match f.ident with
  | some x => x.unraw
  | none => "field_" ++ toString i

/-- No two fields have the same name. -/
def NamesDistinct (fields : List Field) : Prop :=
  fields.Pairwise fun f g => ∀ x y, f.ident = some x → g.ident = some y → x.unraw ≠ y.unraw

end Field

/-- The kind of a field, by its place. -/
def kindAt (fields : List Field) (i : Fin fields.length) : FieldKind := fields[i].ty.fieldKind

/-- The values of a struct, if its fields have values of these types. -/
abbrev Record (fields : List Field) (V : Fin fields.length → Type) : Type :=
  ∀ i, (kindAt fields i).Value (V i)

/-- A replacement for each field of a struct. -/
abbrev Replacements (fields : List Field) (V : Fin fields.length → Type) : Type :=
  ∀ i, (kindAt fields i).Replacement (V i)

section Records

variable {fields : List Field} {V : Fin fields.length → Type}

/-- Every field overridden by its own replacement. -/
def Record.override (given : Replacements fields V) (current : Record fields V) :
    Record fields V := fun i => (kindAt fields i).override (given i) (current i)

/-- No replacement for any field. -/
def Replacements.unset : Replacements fields V := fun i => (kindAt fields i).unset

/-- Replacements that override earlier ones, field by field. -/
def Replacements.overriding (later earlier : Replacements fields V) : Replacements fields V :=
  fun i => (kindAt fields i).overriding (later i) (earlier i)

theorem Record.override_unset (current : Record fields V) :
    Record.override Replacements.unset current = current :=
  funext fun i => (kindAt fields i).override_unset (current i)

theorem Record.override_overriding (later earlier : Replacements fields V)
    (current : Record fields V) :
    Record.override (Replacements.overriding later earlier) current =
      Record.override later (Record.override earlier current) :=
  funext fun i => (kindAt fields i).override_overriding (later i) (earlier i) (current i)

end Records

/-! ## 3. Reading a struct literal -/

/-- The methods that pick between a replacement and a current value. -/
inductive Chooser where
  | unwrapOrElse
  | orElse
deriving DecidableEq, Repr

/-- One entry of a struct literal: a parameter or else a member of `self` is to be the value of a
member. -/
structure Initializer where
  target : MemberName
  parameter : String
  chooser : Chooser
  source : MemberName
deriving DecidableEq, Repr

/-- The member that a token names. -/
def Token.member? : Token → Option MemberName
  | .ident i => some (.named i.unraw)
  | .literal text _ => some (.place text)
  | _ => none

/-- The method of a name. -/
def Chooser.ofText? (text : String) : Option Chooser :=
  if text == "unwrap_or_else" then some .unwrapOrElse
  else if text == "or_else" then some .orElse
  else none

/-- The member of `self` that a closure clones. -/
def clonedMember? (ts : List Token) : Option MemberName :=
  match ts.getLast? with
  | some (.group .paren [.punct '&' _ _, .ident w, .punct '.' _ _, member] _) =>
    if w.text == "self" &&
        Token.sameList ts.dropLast (code "|| :: core :: clone :: Clone :: clone") then
      member.member?
    else none
  | _ => none

/-- An entry of a struct literal, from the tokens of its member, its parameter, the method that is
called on that, and the closure that the method is called with. -/
def initializer? (member : Token) (parameter method : Ident) (closure : List Token) :
    Option Initializer := do
  let target ← member.member?
  let chooser ← Chooser.ofText? method.text
  let source ← clonedMember? closure
  return ⟨target, parameter.unraw, chooser, source⟩

/-- The entries of a struct literal, divided by commas. -/
def initializers? : List Token → Option (List Initializer)
  | [member, .punct ':' _ _, .ident parameter, .punct '.' _ _, .ident method,
      .group .paren closure _] =>
    (initializer? member parameter method closure).map fun init => [init]
  | member :: .punct ':' _ _ :: .ident parameter :: .punct '.' _ _ :: .ident method ::
      .group .paren closure _ :: .punct ',' _ _ :: rest =>
    match initializer? member parameter method closure, initializers? rest with
    | some init, some inits => some (init :: inits)
    | _, _ => none
  | _ => none

/-- The entries of a literal of the struct itself. -/
def structLiteral? : List Token → Option (List Initializer)
  | [.ident name, .group .brace inner _] =>
    if name.text == "Self" then initializers? inner else none
  | _ => none

/-! ## 4. What a struct literal means -/

/-- What a method picks, if a replacement of this kind has the method. -/
def Chooser.choose {V : Type} :
    Chooser → (k : FieldKind) → k.Replacement V → (Unit → k.Value V) → Option (k.Value V)
  | .unwrapOrElse, .plain, given, current => some (Option.getD given (current ()))
  | .orElse, .optional, given, current => some (Nullable.orElse current given)
  | _, _, _, _ => none

section Meaning

variable {fields : List Field} {V : Fin fields.length → Type}

/-- The field that a member is. -/
def fieldOfMember? (fields : List Field) (name : MemberName) : Option (Fin fields.length) :=
  (List.finRange fields.length).find? fun i => fields[i].memberName i == name

/-- The field that a parameter is for. -/
def fieldOfParameter? (fields : List Field) (name : String) : Option (Fin fields.length) :=
  (List.finRange fields.length).find? fun i => fields[i].parameterName i == name

/-- What an entry sets a field to. The types of the fields are arbitrary, so there is no telling
what an entry means that takes a value from one field to another. -/
def Initializer.evaluate (given : Replacements fields V) (current : Record fields V)
    (init : Initializer) : Option ((i : Fin fields.length) × (kindAt fields i).Value (V i)) := do
  let i ← fieldOfMember? fields init.source
  let parameter ← fieldOfParameter? fields init.parameter
  let target ← fieldOfMember? fields init.target
  if parameter = i ∧ target = i then
    (init.chooser.choose (kindAt fields i) (given i) fun _ => current i).map fun v => ⟨i, v⟩
  else none

/-- **What a struct literal makes of the current value**: every entry has a meaning, and together
they set each field exactly once. -/
def Means (given : Replacements fields V) (current : Record fields V) (inits : List Initializer)
    (result : Record fields V) : Prop :=
  ∃ set : List ((i : Fin fields.length) × (kindAt fields i).Value (V i)),
    inits.map (Initializer.evaluate given current) = set.map some ∧
    (set.map Sigma.fst).Perm (List.finRange fields.length) ∧
    ∀ entry ∈ set, result entry.1 = entry.2

end Meaning

/-! ## 5. A literal with one entry for each field -/

/-- The method that the parameter for a field of this kind has. -/
def FieldKind.chooser : FieldKind → Chooser
  | .plain => .unwrapOrElse
  | .optional => .orElse

/-- The entry of a field: it sets the field, from the parameter for it or else its own value. -/
def Field.initializer (i : Nat) (f : Field) : Initializer :=
  ⟨f.memberName i, f.parameterName i, f.ty.fieldKind.chooser, f.memberName i⟩

theorem FieldKind.choose_chooser {V : Type} (k : FieldKind) (given : k.Replacement V)
    (current : k.Value V) :
    k.chooser.choose k given (fun _ => current) = some (k.override given current) := by
  cases k with
  | plain => cases given <;> rfl
  | optional => cases given <;> rfl

/-- What tells the fields apart finds each of them. -/
theorem find?_finRange {n : Nat} {α : Type} [DecidableEq α] {f : Fin n → α}
    (injective : Function.Injective f) (i : Fin n) :
    (List.finRange n).find? (fun j => f j == f i) = some i := by
  cases h : (List.finRange n).find? (fun j => f j == f i) with
  | none => exact absurd (List.find?_eq_none.mp h i (List.mem_finRange i)) (by simp)
  | some j =>
    have same := List.find?_some h
    exact congrArg some (injective (beq_iff_eq.mp same))

/-- The members and the parameters of a struct are told apart by their names. -/
structure Field.ToldApart (fields : List Field) : Prop where
  members : Function.Injective fun i : Fin fields.length => fields[i].memberName i
  parameters : Function.Injective fun i : Fin fields.length => fields[i].parameterName i

section Meaning

variable {fields : List Field} {V : Fin fields.length → Type} {given : Replacements fields V}
  {current result : Record fields V}

theorem evaluate_initializer (apart : Field.ToldApart fields) (i : Fin fields.length) :
    (fields[i].initializer i).evaluate given current =
      some ⟨i, Record.override given current i⟩ := by
  have member : fieldOfMember? fields (fields[i].memberName i) = some i :=
    find?_finRange apart.members i
  have parameter : fieldOfParameter? fields (fields[i].parameterName i) = some i :=
    find?_finRange apart.parameters i
  have chosen := (kindAt fields i).choose_chooser (given i) (current i)
  simp only [Initializer.evaluate, Field.initializer, member, parameter, bind, Option.bind_some,
    and_self, if_true]
  exact congrArg (Option.map _) chosen

theorem mapIdx_eq_finRange {α : Type} (f : Nat → Field → α) :
    fields.mapIdx f =
      (List.finRange fields.length).map fun i : Fin fields.length => f i fields[i] :=
  List.ext_getElem (by simp) fun i _ _ => by simp

/-- **A literal with one entry of its own for each field overrides field by field**, and means
nothing else. -/
theorem means_iff (apart : Field.ToldApart fields) :
    Means given current (fields.mapIdx Field.initializer) result ↔
      result = Record.override given current := by
  have evaluated : (fields.mapIdx Field.initializer).map (Initializer.evaluate given current) =
      ((List.finRange fields.length).map fun i => ⟨i, Record.override given current i⟩).map
        some := by
    rw [mapIdx_eq_finRange, List.map_map, List.map_map]
    exact List.map_congr_left fun i _ => evaluate_initializer apart i
  constructor
  · rintro ⟨set, entries, -, sets⟩
    rw [evaluated] at entries
    have same := List.map_injective_iff.mpr (Option.some_injective _) entries
    funext i
    refine sets ⟨i, Record.override given current i⟩ ?_
    rw [← same]
    exact List.mem_map_of_mem (List.mem_finRange i)
  · rintro rfl
    refine ⟨_, evaluated, ?_, ?_⟩
    · rw [List.map_map, Function.comp_def, List.map_id']
    · intro entry mem
      obtain ⟨i, -, rfl⟩ := List.mem_map.mp mem
      rfl

end Meaning

/-! ## 6. Names of fields -/

namespace Field

variable {fields : List Field}

/-- Fields in different places have different names. -/
theorem NamesDistinct.apart (distinct : NamesDistinct fields) {i j : Fin fields.length} (lt : i < j)
    {x y : Ident} (hx : fields[i].ident = some x) (hy : fields[j].ident = some y) :
    x.unraw ≠ y.unraw :=
  List.pairwise_iff_getElem.mp distinct i j i.isLt j.isLt lt x y hx hy

theorem NamesDistinct.members (distinct : NamesDistinct fields) :
    Function.Injective fun i : Fin fields.length => fields[i].memberName i := by
  refine Function.Injective.of_lt_imp_ne fun i j lt same => ?_
  dsimp only [memberName] at same
  cases hx : fields[i].ident with
  | some x =>
    cases hy : fields[j].ident with
    | some y =>
      rw [hx, hy] at same
      injection same with same
      exact distinct.apart lt hx hy same
    | none =>
      rw [hx, hy] at same
      nomatch same
  | none =>
    cases hy : fields[j].ident with
    | some y =>
      rw [hx, hy] at same
      nomatch same
    | none =>
      rw [hx, hy] at same
      injection same with same
      exact lt.ne (Fin.ext (Nat.repr_injective same))

/-- A name that is made up for a field without one is never that of another field, since that has
none either. -/
theorem NamesDistinct.parameters (distinct : NamesDistinct fields)
    (uniform : (∀ f ∈ fields, f.ident ≠ none) ∨ ∀ f ∈ fields, f.ident = none) :
    Function.Injective fun i : Fin fields.length => fields[i].parameterName i := by
  refine Function.Injective.of_lt_imp_ne fun i j lt same => ?_
  dsimp only [parameterName] at same
  rcases uniform with named | nameless
  · obtain ⟨x, hx⟩ := Option.ne_none_iff_exists'.mp (named fields[i] (List.getElem_mem _))
    obtain ⟨y, hy⟩ := Option.ne_none_iff_exists'.mp (named fields[j] (List.getElem_mem _))
    rw [hx, hy] at same
    exact distinct.apart lt hx hy same
  · rw [nameless fields[i] (List.getElem_mem _), nameless fields[j] (List.getElem_mem _)] at same
    exact lt.ne (Fin.ext (Nat.repr_injective (String.append_right_inj _ |>.mp same)))

theorem NamesDistinct.toldApart {fields : Fields} (distinct : NamesDistinct fields.toList)
    (uniform : fields.Uniform) : ToldApart fields.toList :=
  ⟨distinct.members, distinct.parameters uniform⟩

end Field

/-! ## 7. What is written -/

/-- The member that a field is reached as. -/
def FieldRef.memberName : FieldRef → MemberName
  | .named x => .named x.unraw
  | .index n => .place (toString n)

/-- The kind of a field with such a parameter. -/
def Override.kind : Override → FieldKind
  | .optional _ => .plain
  | .nullable _ => .optional

theorem FieldRef.member?_token (r : FieldRef) : r.token.member? = some r.memberName := by
  cases r <;> rfl

namespace CopyField

variable (f : CopyField)

/-- The entry that is written for a field. -/
def initializer : Initializer :=
  ⟨f.target.memberName, f.name.unraw, f.override.kind.chooser, f.source.memberName⟩

theorem clonedMember?_current : clonedMember? f.current = some f.source.memberName := by
  have inside : code "& self ." ++ [f.source.token] =
      [.punct '&' .alone .callSite, word "self", .punct '.' .alone .callSite, f.source.token] := rfl
  unfold clonedMember? current
  rw [inside, List.getLast?_concat, List.dropLast_concat]
  simp only [parens, word, Token.sameList_self, Bool.and_true]
  exact f.source.member?_token

theorem chooser_eq : ∃ method,
    f.chooser = .ident method ∧ Chooser.ofText? method.text = some f.override.kind.chooser := by
  unfold chooser
  cases f.override with
  | optional ty => exact ⟨_, rfl, rfl⟩
  | nullable inner => exact ⟨_, rfl, rfl⟩

/-- The tokens of an entry, and what they are read as. -/
theorem init_read : ∃ method,
    f.init = [f.target.token, .punct ':' .alone .callSite, .ident f.name,
      .punct '.' .alone .callSite, .ident method, .group .paren f.current .callSite] ∧
    initializer? f.target.token f.name method f.current = some f.initializer := by
  obtain ⟨method, written, chosen⟩ := f.chooser_eq
  refine ⟨method, ?_, ?_⟩
  · rw [← written]
    rfl
  · simp only [initializer?, f.target.member?_token, chosen, f.clonedMember?_current]
    rfl

end CopyField

/-- **The entries of a literal are read as they were written.** -/
theorem initializers?_written {fs : List CopyField} (nonempty : fs ≠ []) :
    initializers? (commaSeparated (fs.map CopyField.init)) =
      some (fs.map CopyField.initializer) := by
  induction fs with
  | nil => exact absurd rfl nonempty
  | cons f fs ih =>
    obtain ⟨method, written, read⟩ := f.init_read
    cases fs with
    | nil =>
      have entry : initializers? f.init =
          (initializer? f.target.token f.name method f.current).map fun init => [init] := by
        rw [written]
        rfl
      exact entry.trans (congrArg (Option.map _) read)
    | cons g gs =>
      have rest := ih (List.cons_ne_nil _ _)
      have entry : ∀ more, initializers? (f.init ++ operator "," ++ more) =
          match initializer? f.target.token f.name method f.current, initializers? more with
          | some init, some inits => some (init :: inits)
          | _, _ => none := by
        intro more
        rw [written]
        rfl
      refine (entry _).trans ?_
      rw [read, rest]
      rfl

/-- The type of the parameter for a field of this type, and the kind of the field. -/
inductive Ty.ReplacedBy : Ty → FieldKind → List Token → Prop
  | nullable {t inner : Ty} (h : Ty.Applies "Option" inner t) :
      ReplacedBy t .optional (code ":: playtomic :: Nullable <" ++ inner.tokens ++ operator ">")
  | option {t : Ty} (h : ∀ inner, ¬ Ty.Applies "Option" inner t) :
      ReplacedBy t .plain (code ":: core :: option :: Option <" ++ t.tokens ++ operator ">")

/-- Parameters that are one for each field, in order, each with the name and of the type that it
should have. -/
structure TakesReplacements (fields : List Field) (params : List (List Token × List Token)) :
    Prop where
  one : params.length = fields.length
  each : ∀ i : Fin fields.length, ∃ name type, params[i]? = some ([.ident name], type) ∧
    name.unraw = fields[i].parameterName i ∧ fields[i].ty.ReplacedBy (kindAt fields i) type

theorem Ident.unraw_field (rest : String) :
    (Ident.new ("field_" ++ rest)).unraw = "field_" ++ rest := by
  have chars : ("field_" ++ rest).toList = 'f' :: ("ield_".toList ++ rest.toList) := by
    rw [String.toList_append]
    rfl
  unfold unraw new
  rw [chars]
  show String.ofList ('f' :: ("ield_".toList ++ rest.toList)) = _
  rw [← chars, String.ofList_toList]

namespace Field

variable (i : Nat) (f : Field)

/-- What is done with a field. -/
def copyField : CopyField := .ofProperty (.ofField i f)

theorem copyField_override : (f.copyField i).override =
    match Ty.unwrap? "Option" f.ty with
    | some inner => .nullable inner
    | none => .optional (some f.ty) := by
  unfold copyField Property.ofField
  cases f.ident <;> rfl

theorem copyField_name : (f.copyField i).name.unraw = f.parameterName i := by
  unfold copyField Property.ofField parameterName
  cases f.ident with
  | some x => rfl
  | none => exact Ident.unraw_field _

theorem copyField_initializer : (f.copyField i).initializer = f.initializer i := by
  have kind : (f.copyField i).override.kind = f.ty.fieldKind := by
    rw [copyField_override, Ty.fieldKind]
    cases Ty.unwrap? "Option" f.ty <;> rfl
  have target : (f.copyField i).target.memberName = f.memberName i := by
    unfold copyField Property.ofField memberName
    cases f.ident <;> rfl
  have source : (f.copyField i).source.memberName = f.memberName i := target
  rw [CopyField.initializer, target, source, kind, copyField_name]
  rfl

theorem copyField_paramType : f.ty.ReplacedBy f.ty.fieldKind (f.copyField i).paramType := by
  unfold CopyField.paramType Ty.fieldKind
  rw [copyField_override]
  cases h : Ty.unwrap? "Option" f.ty with
  | some inner => exact .nullable (Ty.unwrap?_eq_some.mp h)
  | none =>
    refine .option fun inner applies => ?_
    rw [Ty.unwrap?_eq_some.mpr applies] at h
    nomatch h

end Field

/-- The properties that a value of a struct holds are its fields, in order. -/
theorem Outline.stored_struct (head : TypeHead) (fields : Fields) :
    (Item.struct head fields).outline.properties.filter Property.isInstanceStored =
      fields.toList.mapIdx Property.ofField := by
  have stored : ∀ p ∈ fields.toList.mapIdx Property.ofField, p.isInstanceStored = true := by
    intro p mem
    obtain ⟨i, h, rfl⟩ := List.mem_mapIdx.mp mem
    exact isInstanceStored_ofField i _
  unfold Item.outline
  dsimp only
  rw [properties_ofFields, List.filter_eq_self.mpr stored]

/-- Every field of a struct is copied, in order. -/
theorem CopyMethod.fields_ofOutline (head : TypeHead) (fields : Fields) :
    (CopyMethod.ofOutline (Item.struct head fields).outline).fields =
      fields.toList.mapIdx Field.copyField := by
  unfold ofOutline
  dsimp only
  rw [Outline.stored_struct]
  exact List.ext_getElem (by simp) fun i _ _ => by simp [Field.copyField]

theorem CopyMethod.takesReplacements (head : TypeHead) (fields : Fields) :
    TakesReplacements fields.toList
      (CopyMethod.ofOutline (Item.struct head fields).outline).method.params := by
  have params : (CopyMethod.ofOutline (Item.struct head fields).outline).method.params =
      (fields.toList.mapIdx Field.copyField).map fun f => ([.ident f.name], f.paramType) := by
    rw [← fields_ofOutline head]
    rfl
  rw [params]
  refine ⟨by simp, fun i => ?_⟩
  refine ⟨_, _, ?_, Field.copyField_name i fields.toList[i], Field.copyField_paramType i _⟩
  simp

theorem CopyMethod.structLiteral?_body (head : TypeHead) {fields : Fields}
    (nonempty : fields.toList ≠ []) :
    structLiteral? (CopyMethod.ofOutline (Item.struct head fields).outline).method.body =
      some (fields.toList.mapIdx Field.initializer) := by
  have written :
      structLiteral? (CopyMethod.ofOutline (Item.struct head fields).outline).method.body =
        initializers?
          (commaSeparated ((fields.toList.mapIdx Field.copyField).map CopyField.init)) := by
    rw [← fields_ofOutline head]
    rfl
  have entries : fields.toList.mapIdx Field.copyField ≠ [] := by
    rwa [ne_eq, List.mapIdx_eq_nil_iff]
  rw [written, initializers?_written entries]
  refine congrArg some (List.ext_getElem (by simp) fun i _ _ => ?_)
  simp [Field.copyField_initializer]

/-- **The method is read as it was written**: `copy`, which takes `&self` and the parameters and
returns a `Self`. -/
theorem CopyMethod.read?_tokens (m : CopyMethod) : WrittenMethod.read? m.method.tokens =
    some ⟨.new "copy",
      commaSeparated (code "& self" :: m.method.params.map fun p => p.1 ++ operator ":" ++ p.2),
      operator "->" ++ [word "Self"] ++ Part.tokensOf m.method.generics.clauseParts,
      m.method.body⟩ :=
  WrittenMethod.read?_tokens rfl

theorem Transform.copyable_struct (head : TypeHead) {fields : Fields}
    (nonempty : fields.toList ≠ []) (args : Arguments) (std : Bool) :
    Transform.copyable.run ⟨.item (.struct head fields), args, std⟩ = .ok (.just (.declarations
      [(CopyMethod.ofOutline (Item.struct head fields).outline).method.tokens])) := by
  refine if_neg fun empty => nonempty ?_
  rw [CopyMethod.fields_ofOutline, List.isEmpty_iff, List.mapIdx_eq_nil_iff] at empty
  exact empty

/-- **A copy overrides field by field.** Every struct with a field gains one method that takes a
replacement for each field, in order: a `Nullable<T>` for a field of type `Option<T>`, an `Option`
of its type for any other. Its name, its parameters and its body are read off the tokens that are
written. The body is a struct literal with one entry for each field, from the
parameter for the field and the field's own value. Whatever the types of the fields, the result
holds in each field what its replacement gives, or else what the field held. So nothing changes if
no replacement gives anything, and two copies in turn are one with the later replacements over the
earlier ones. -/
theorem copy_overrides_fields {ts : List Token} {head : TypeHead} {fields : Fields}
    (parsed : Item.parse ts = .ok (.struct head fields)) (nonempty : fields.toList ≠ [])
    (distinct : Field.NamesDistinct fields.toList) (args : Arguments) (std : Bool) :
    ∃ (m : Method) (clauses : List Token) (inits : List Initializer),
      Transform.copyable.run ⟨.item (.struct head fields), args, std⟩ =
        .ok (.just (.declarations [m.tokens])) ∧
      WrittenMethod.read? m.tokens = some ⟨.new "copy",
        commaSeparated (code "& self" :: m.params.map fun p => p.1 ++ operator ":" ++ p.2),
        clauses, m.body⟩ ∧
      m.receiver = some (code "& self") ∧ TakesReplacements fields.toList m.params ∧
      structLiteral? m.body = some inits ∧ inits = fields.toList.mapIdx Field.initializer ∧
      ∀ V : Fin fields.toList.length → Type,
        (∀ (given : Replacements fields.toList V) (current result : Record fields.toList V),
          Means given current inits result ↔
            ∀ i, result i = (kindAt fields.toList i).override (given i) (current i)) ∧
        (∀ current : Record fields.toList V, Means Replacements.unset current inits current) ∧
        ∀ (a b : Replacements fields.toList V) (current middle result : Record fields.toList V),
          Means a current inits middle → Means b middle inits result →
          Means (Replacements.overriding b a) current inits result := by
  have apart := distinct.toldApart (Item.parse_uniform parsed)
  refine ⟨_, _, _, Transform.copyable_struct head nonempty args std, CopyMethod.read?_tokens _, rfl,
    CopyMethod.takesReplacements head fields, CopyMethod.structLiteral?_body head nonempty, rfl,
    fun V => ⟨fun given current result => ?_, fun current => ?_, ?_⟩⟩
  · rw [means_iff apart]
    exact funext_iff
  · rw [means_iff apart, Record.override_unset]
  · intro a b current middle result first second
    rw [means_iff apart] at first second ⊢
    rw [Record.override_overriding, ← first, ← second]

/-- The fields of `struct ViewState { id: i32, name: Option<String> }`. -/
def viewFields : List Field :=
  [⟨[], .inherited, some (.new "id"), .path (.mk none [.mk (.new "i32") .none])⟩,
    ⟨[], .inherited, some (.new "name"), .path (.mk none [.mk (.new "Option")
      (.angle false .callSite .callSite
        [.ty (.path (.mk none [.mk (.new "String") .none]))] false)])⟩]

/-- The struct itself. -/
def viewItem : Item :=
  .struct ⟨[], .inherited, .callSite, .new "ViewState", .empty⟩ (.named .callSite viewFields false)

/-- The tokens of the struct. -/
def viewTokens : List Token :=
  [word "struct", word "ViewState", braces (code "id : i32 , name : Option < String >")]

/-- An integer and a text. -/
def ViewTypes (i : Fin viewFields.length) : Type := if i.val = 0 then Int else String

/-- A value of the struct. -/
def viewState (id : Int) (name : Option String) : Record viewFields ViewTypes
  | ⟨0, _⟩ => id
  | ⟨1, _⟩ => name

/-- Replacements for its fields. -/
def viewChange (id : Option Int) (name : Nullable String) : Replacements viewFields ViewTypes
  | ⟨0, _⟩ => id
  | ⟨1, _⟩ => name

set_option maxRecDepth 4000 in
theorem viewItem_parse : Item.parse viewTokens = .ok viewItem := by cbv

/-- A copy with a new number and with the text cleared. -/
theorem viewState_cleared : Item.parse viewTokens = .ok viewItem ∧
    Field.NamesDistinct viewFields ∧
    ∃ (m : Method) (written : WrittenMethod) (inits : List Initializer),
      Transform.copyable.run ⟨.item viewItem, [], true⟩ = .ok (.just (.declarations [m.tokens])) ∧
      WrittenMethod.read? m.tokens = some written ∧ structLiteral? written.body = some inits ∧
      Means (viewChange (some 2) .null) (viewState 1 (some "Ada")) inits (viewState 2 none) := by
  have distinct : Field.NamesDistinct viewFields := by
    refine .cons ?_ (.cons (fun _ mem => nomatch mem) .nil)
    rintro g mem x y ⟨⟩ hy
    obtain rfl := List.mem_singleton.mp mem
    obtain ⟨⟩ := hy
    decide
  obtain ⟨m, clauses, inits, run, written, -, -, read, -, means⟩ :=
    copy_overrides_fields viewItem_parse (List.cons_ne_nil _ _) distinct [] true
  refine ⟨viewItem_parse, distinct, m, _, inits, run, written, read, ?_⟩
  refine ((means ViewTypes).1 _ _ _).mpr fun i => ?_
  match i with
  | ⟨0, _⟩ => rfl
  | ⟨1, _⟩ => rfl

end Graft
