import Graft.Proofs.Callback.ReturnScope
import Graft.Proofs.Callback.DroppedParameter
import Graft.Proofs.Channel.Sibling

/-!
# Names of the parameters that are passed on

A sibling takes the parameters in front of the callback and hands them on in its call. A parameter
that is bound to a plain name keeps it; any other one is numbered, `arg0`, `arg1` and so on, by its
place among all that are passed on. The numbers are not compared with the names that are kept.

* `Signature.NamesDistinct`: no two plain names of a signature are alike.
* `Signature.NumbersFree`: no parameter that is passed on has a name that stands for another one.
* `Method.HandsOn`: each argument of a call is the name of one parameter, the one in its own place.
* **`forwarded_names_distinct_iff`**: the names are told apart, and handed on in place, exactly if
  the numbers are free; `forwarded_names_clash` is a function for which they are not.
-/

namespace Graft

/-! ## 1. Names -/

/-- A name as it is spelled, or without its `r#`. To the compiler the latter is the name. -/
def Ident.spelling (raw : Bool) (i : Ident) : String := if raw then i.text else i.unraw

namespace FnArg

/-- The name that a parameter is bound to, if it is a plain one. -/
def plainName? : FnArg → Option Ident
  | .typed _ (.name none _ ident none) _ _ => some ident
  | _ => none

/-- Whether a parameter is a receiver. -/
def isReceiver : FnArg → Bool
  | .receiver _ => true
  | _ => false

/-- The name that a parameter is passed on under, by its place. -/
def nameAt (i : Nat) (arg : FnArg) : Ident := arg.plainName?.getD (.new ("arg" ++ toString i))

end FnArg

namespace Signature

variable (raw : Bool) (s : Signature)

/-- The parameters that are passed on: those in front of the callback, without a receiver. -/
def passedOn : List FnArg := s.inputs.dropLast.filter (!·.isReceiver)

/-- No two parameters are bound to the same plain name. -/
def NamesDistinct : Prop := ((s.inputs.filterMap FnArg.plainName?).map (Ident.spelling raw)).Nodup

/-- **Free numbers**: where a name is made up, no parameter that is passed on has this name. -/
def NumbersFree : Prop :=
  ∀ (i : Nat) (arg : FnArg), s.passedOn[i]? = some arg → arg.plainName? = none →
    ∀ other ∈ s.passedOn, ∀ x, other.plainName? = some x →
      x.spelling raw ≠ "arg" ++ toString i

end Signature

/-- **A call that hands on the parameters of a method**: each of its arguments is the name of a
parameter, of the one in the same place and of no other one. -/
def Method.HandsOn (raw : Bool) (m : Method) (args : List (List Token)) : Prop :=
  args.length = m.params.length ∧
  ∀ (i : Nat) (arg : List Token), args[i]? = some arg → ∃ x : Ident, arg = [.ident x] ∧
    ∀ j : Nat, (∃ (y : Ident) (ty : List Token), m.params[j]? = some ([.ident y], ty) ∧
      y.spelling raw = x.spelling raw) ↔ j = i

/-- The arguments that a body calls a function with, without the callback. -/
def Sibling.handedOn? (f : FnItem) (body : List Token) : Option (List (List Token)) :=
  match body.splitOnP (Token.isMark ';') with
  | [_, second, _] => (callsWith? f second).map List.dropLast
  | _ => none

/-! ## 2. Names that are kept or made up -/

theorem Ident.spelling_arg (raw : Bool) (rest : String) :
    (Ident.new ("arg" ++ rest)).spelling raw = "arg" ++ rest := by
  have chars : ("arg" ++ rest).toList = 'a' :: ("rg".toList ++ rest.toList) := by
    rw [String.toList_append]
    rfl
  have plain : (Ident.new ("arg" ++ rest)).unraw = "arg" ++ rest := by
    unfold unraw new
    rw [chars]
    show String.ofList ('a' :: ("rg".toList ++ rest.toList)) = _
    rw [← chars, String.ofList_toList]
  unfold spelling
  split
  · rfl
  · exact plain

theorem FnArg.forwardable?_fst (arg : FnArg) : (Signature.forwardable? arg).map Prod.fst =
    if arg.isReceiver then none else some arg.plainName? := by
  cases arg with
  | receiver r => rfl
  | dots attrs span => rfl
  | typed attrs pat colon t =>
    cases pat with
    | other parts => rfl
    | name byRef mutable ident sub => cases byRef <;> cases sub <;> rfl

namespace Signature

variable (s : Signature)

theorem map_fst_forwardable? (args : List FnArg) :
    (args.filterMap forwardable?).map Prod.fst =
      (args.filter (!·.isReceiver)).map FnArg.plainName? := by
  induction args with
  | nil => rfl
  | cons arg args ih =>
    have step := arg.forwardable?_fst
    cases hr : arg.isReceiver with
    | true =>
      rw [hr, if_pos rfl, Option.map_eq_none_iff] at step
      rw [List.filterMap_cons_none step, ih]
      simp [hr]
    | false =>
      rw [hr, if_neg Bool.false_ne_true, Option.map_eq_some_iff] at step
      obtain ⟨p, hp, hname⟩ := step
      rw [List.filterMap_cons_some hp, List.map_cons, ih, hname]
      simp [hr]

/-- **A plain name is kept, and any other pattern is numbered by its place.** -/
theorem forwarded_names : s.forwarded.map Prod.fst = s.passedOn.mapIdx FnArg.nameAt := by
  have names : s.forwarded.map Prod.fst =
      ((s.inputs.dropLast.filterMap forwardable?).map Prod.fst).mapIdx
        fun i name => name.getD (.new ("arg" ++ toString i)) := by
    refine List.ext_getElem (by simp [forwarded]) fun i _ _ => ?_
    simp [forwarded]
  rw [names, map_fst_forwardable?]
  exact List.ext_getElem (by simp [passedOn]) fun i _ _ => by simp [passedOn, FnArg.nameAt]

variable {s} {raw : Bool}

/-- Parameters that are passed on have different plain names in different places. -/
theorem NamesDistinct.passedOn (distinct : s.NamesDistinct raw) :
    s.passedOn.Pairwise fun a b => ∀ x, a.plainName? = some x → ∀ y, b.plainName? = some y →
      x.spelling raw ≠ y.spelling raw := by
  have sub : s.passedOn.Sublist s.inputs :=
    List.filter_sublist.trans (List.dropLast_sublist s.inputs)
  have all := List.pairwise_filterMap.mp (List.pairwise_map.mp distinct)
  exact all.sublist sub

/-- **Names in two places are different if the numbers are free.** -/
theorem NumbersFree.nameAt_ne (distinct : s.NamesDistinct raw) (free : s.NumbersFree raw)
    {i j : Nat} (lt : i < j) {a b : FnArg} (ha : s.passedOn[i]? = some a)
    (hb : s.passedOn[j]? = some b) : (a.nameAt i).spelling raw ≠ (b.nameAt j).spelling raw := by
  have memA := List.mem_of_getElem? ha
  have memB := List.mem_of_getElem? hb
  unfold FnArg.nameAt
  cases hx : a.plainName? with
  | some x =>
    cases hy : b.plainName? with
    | some y =>
      obtain ⟨hi, rfl⟩ := List.getElem?_eq_some_iff.mp ha
      obtain ⟨hj, rfl⟩ := List.getElem?_eq_some_iff.mp hb
      exact List.pairwise_iff_getElem.mp distinct.passedOn i j hi hj lt x hx y hy
    | none =>
      rw [Option.getD_some, Option.getD_none, Ident.spelling_arg]
      exact free j b hb hy a memA x hx
  | none =>
    cases hy : b.plainName? with
    | some y =>
      rw [Option.getD_some, Option.getD_none, Ident.spelling_arg]
      exact (free i a ha hx b memB y hy).symm
    | none =>
      rw [Option.getD_none, Option.getD_none, Ident.spelling_arg, Ident.spelling_arg]
      intro same
      have same := Nat.repr_injective (String.append_right_inj _ |>.mp same)
      omega

/-- **The names are told apart exactly if the numbers are free.** -/
theorem nodup_forwarded_iff (distinct : s.NamesDistinct raw) :
    (s.forwarded.map fun p => p.1.spelling raw).Nodup ↔ s.NumbersFree raw := by
  have names : (s.forwarded.map fun p => p.1.spelling raw) =
      s.passedOn.mapIdx fun i arg => (arg.nameAt i).spelling raw := by
    have mapped := congrArg (List.map (Ident.spelling raw)) s.forwarded_names
    rw [List.map_map] at mapped
    refine mapped.trans (List.ext_getElem (by simp) fun i _ _ => by simp)
  rw [names]
  constructor
  · intro nodup i arg harg made other mem x hx same
    obtain ⟨k, hk, rfl⟩ := List.getElem_of_mem mem
    obtain ⟨hi, rfl⟩ := List.getElem?_eq_some_iff.mp harg
    -- The two names stand in different places, for only one of them was made up.
    have places : k ≠ i := by
      rintro rfl
      rw [made] at hx
      nomatch hx
    have alike : (s.passedOn[k].nameAt k).spelling raw = (s.passedOn[i].nameAt i).spelling raw := by
      simp only [FnArg.nameAt, hx, made, Option.getD_some, Option.getD_none, Ident.spelling_arg]
      exact same
    refine places ((List.getElem?_inj (by simpa using hk) nodup).mp ?_)
    simp [hk, hi, alike]
  · intro free
    refine List.pairwise_iff_getElem.mpr fun i j hi hj lt => ?_
    rw [List.getElem_mapIdx, List.getElem_mapIdx]
    exact free.nameAt_ne distinct lt (List.getElem?_eq_getElem _) (List.getElem?_eq_getElem _)

end Signature

/-! ## 3. Names that are handed on -/

theorem Sibling.handedOn?_body (b : Sibling) : handedOn? b.source b.method.body =
    some (b.source.sig.forwarded.map fun n => [.ident n.1]) := by
  have body : b.method.body.splitOnP (Token.isMark ';') = _ := b.statements_body
  unfold handedOn?
  rw [body]
  dsimp only
  rw [callsWith?_callStatement, callArgs, arguments_forwarded, Option.map_some,
    List.dropLast_concat]

/-- A call with the names of all parameters in order hands them on exactly if the names are told
apart. -/
theorem Method.handsOn_iff {raw : Bool} {m : Method} {names : List (Ident × Ty)}
    (params : m.params = names.map fun (name, t) => ([.ident name], t.tokens)) :
    m.HandsOn raw (names.map fun n => [.ident n.1]) ↔
      (names.map fun n => n.1.spelling raw).Nodup := by
  have refers : ∀ (j : Nat) (x : Ident), (∃ (y : Ident) (ty : List Token),
      m.params[j]? = some ([.ident y], ty) ∧ y.spelling raw = x.spelling raw) ↔
        (names.map fun n => n.1.spelling raw)[j]? = some (x.spelling raw) := by
    intro j x
    rw [params, List.getElem?_map, List.getElem?_map]
    cases names[j]? with
    | none => simp
    | some n => simp
  constructor
  · intro hands
    refine List.pairwise_iff_getElem.mpr fun i j hi hj lt same => ?_
    have hi' : i < names.length := by simpa using hi
    obtain ⟨x, arg, only⟩ := hands.2 i [.ident names[i].1] (by simp [hi'])
    obtain ⟨⟨⟩⟩ := arg
    have twin := (only j).mp ((refers j _).mpr ?_)
    · omega
    · rw [List.getElem?_eq_getElem hj, ← same, List.getElem_map]
  · intro nodup
    refine ⟨by rw [params, List.length_map, List.length_map], fun i arg harg => ?_⟩
    rw [List.getElem?_map, Option.map_eq_some_iff] at harg
    obtain ⟨n, hn, rfl⟩ := harg
    refine ⟨n.1, rfl, fun j => ?_⟩
    have here : (names.map fun n => n.1.spelling raw)[i]? = some (n.1.spelling raw) := by
      rw [List.getElem?_map, hn]
      rfl
    rw [refers]
    constructor
    · intro there
      have hj := (List.getElem?_eq_some_iff.mp there).1
      exact (List.getElem?_inj hj nodup).mp (there.trans here.symm)
    · rintro rfl
      exact here

/-- **When the names that are passed on are told apart.** A parameter in front of the callback is
passed on under its plain name, or under `arg` and its number. If the plain names of a signature are
distinct, these names are distinct exactly if no made-up one is also a plain one. A sibling has
these parameters, with the types they have in the function, and its call hands them on in order; so
each one gets to the place that it came from exactly if the numbers are free. Whether they are is
not looked at. -/
theorem forwarded_names_distinct_iff (raw : Bool) (s : Signature)
    (distinct : s.NamesDistinct raw) :
    s.forwarded.map Prod.fst = s.passedOn.mapIdx FnArg.nameAt ∧
    ((s.forwarded.map fun p => p.1.spelling raw).Nodup ↔ s.NumbersFree raw) ∧
    ∀ f b, f.sig = s → Sibling.of? f = some b →
      b.method.params.map Prod.fst = s.forwarded.map (fun p => [.ident p.1]) ∧
      b.method.params.map Prod.snd =
        (s.inputs.dropLast.filterMap FnArg.passedOn?).map Ty.tokens ∧
      ∃ args, Sibling.handedOn? f b.method.body = some args ∧
        (b.method.HandsOn raw args ↔ s.NumbersFree raw) := by
  refine ⟨s.forwarded_names, Signature.nodup_forwarded_iff distinct, ?_⟩
  rintro f b rfl found
  obtain ⟨-, rfl, -⟩ := Sibling.of?_eq_some.mp found
  have params : b.method.params =
      b.source.sig.forwarded.map fun (name, t) => ([.ident name], t.tokens) := rfl
  refine ⟨?_, ?_, _, b.handedOn?_body, ?_⟩
  · rw [params, List.map_map]
    rfl
  · rw [params, ← Signature.forwarded_types, List.map_map, List.map_map]
    rfl
  · rw [Method.handsOn_iff params, Signature.nodup_forwarded_iff distinct]

/-- `fn each(first: u8, _: u8, done: impl Fn(u8)) {}`, with this name for the first parameter. -/
def eachBehind (first : String) : FnItem :=
  .declared { (default : Signature) with
    ident := .new "each"
    generics := .empty
    inputs := [.typed [] (.name none none (.new first) none) .callSite (nameTy "u8"),
      .typed [] (.other [.token (word "_")]) .callSite (nameTy "u8"),
      .typed [] (.name none none (.new "done") none) .callSite
        (.implTrait .callSite [takesMany none (nameTy "u8")] false)] }

/-- The sibling of this function. -/
def eachBehindSibling (first : String) : Sibling :=
  ⟨eachBehind first, ⟨nameTy "u8", .direct, none⟩⟩

/-- Behind a parameter called `id`, the name `arg1` is free, and both are handed on in place. -/
theorem forwarded_id_distinct :
    (eachBehind "id").sig.NamesDistinct false ∧
    ((eachBehind "id").sig.forwarded.map fun p => p.1.spelling false) = ["id", "arg1"] ∧
    ∃ args, Sibling.handedOn? (eachBehind "id") (eachBehindSibling "id").method.body = some args ∧
      (eachBehindSibling "id").method.HandsOn false args := by
  have distinct : (eachBehind "id").sig.NamesDistinct false := by
    unfold Signature.NamesDistinct
    decide +kernel
  obtain ⟨-, told, siblings⟩ := forwarded_names_distinct_iff false (eachBehind "id").sig distinct
  have free := told.mp (by decide +kernel)
  obtain ⟨-, -, args, handed, inPlace⟩ :=
    siblings (eachBehind "id") (eachBehindSibling "id") rfl rfl
  exact ⟨distinct, by decide +kernel, args, handed, inPlace.mpr free⟩

set_option maxRecDepth 4000 in
theorem eachBehind_arg1_parse :
    Item.parse (code "fn each" ++ [parens (code "arg1 : u8 , _ : u8 , done : impl Fn" ++
      [parens (code "u8")]), braces []]) = .ok (.function (eachBehind "arg1")) := by
  cbv

/-- **Names are not always told apart**: behind a parameter called `arg1` a second one is called
`arg1` as well, though the plain names of the function are distinct. Its sibling takes both, and
does not hand on either of them in place. -/
theorem forwarded_names_clash :
    ∃ ts f b, Item.parse ts = .ok (.function f) ∧ f.sig.NamesDistinct false ∧
      Sibling.of? f = some b ∧
      f.sig.forwarded.map (fun p => p.1.spelling false) = ["arg1", "arg1"] ∧
      b.method.params = [(code "arg1", code "u8"), (code "arg1", code "u8")] ∧
      ¬ (f.sig.forwarded.map fun p => p.1.spelling false).Nodup ∧
      ∃ args, Sibling.handedOn? f b.method.body = some args ∧ ¬ b.method.HandsOn false args := by
  have names : ((eachBehind "arg1").sig.forwarded.map fun p => p.1.spelling false) =
      ["arg1", "arg1"] := by
    decide +kernel
  have twice : ¬ ((eachBehind "arg1").sig.forwarded.map fun p => p.1.spelling false).Nodup := by
    rw [names]
    decide
  have distinct : (eachBehind "arg1").sig.NamesDistinct false := by
    unfold Signature.NamesDistinct
    decide +kernel
  refine ⟨_, eachBehind "arg1", eachBehindSibling "arg1", eachBehind_arg1_parse, distinct, rfl,
    names, rfl, twice, _, (eachBehindSibling "arg1").handedOn?_body, fun inPlace => twice ?_⟩
  exact (Method.handsOn_iff rfl).mp inPlace

end Graft
