import Graft.Argument
import Mathlib

/-!
# Arguments by their labels

The arguments are gone through in order, and the first one whose label was seen before makes the
whole list fail. An argument is looked up by taking the first one with its label; since no label
occurs twice, "the first one" may be read as "the one there is", and the look-up does not depend on
the order.

* `Arguments.Repeats`, `Arguments.FirstRepeated`: an argument whose label stands earlier in the
  list, and the first such argument; `repeated?_outcome`: going through the list finds it.
* `Arguments.Gives`: the list has an argument with this label and this value, at whatever place;
  `Arguments.OnlyOne`: one argument of the list has the label, and this is its value.
* `Arguments.Distinct`: no label occurs twice; `parse_distinct`: so it is in every list that was
  parsed.
* **`Distinct.labeled_eq_some`**: in such a list, the look-up finds exactly what is given;
  **`Distinct.labeled_perm`**: it finds the same in another order.
* **`argument_labels_exact`**: which lists fail and with which report; and in all others, what is
  found by a label and as the only argument.
-/

namespace Graft

namespace Arguments

/-- The arguments give this value under a label. -/
def Gives (args : Arguments) (label : String) (e : Expr) : Prop :=
  ∃ l : Ident, l.text = label ∧ ⟨some l, e⟩ ∈ args

/-- No two arguments have the same label. -/
def Distinct (args : Arguments) : Prop :=
  args.Pairwise fun a b => ∀ l m : Ident, a.label = some l → b.label = some m → l.text ≠ m.text

/-- The label of the argument at a place, if there is such an argument and it has one. -/
def labelAt (args : Arguments) (i : Nat) : Option Ident := args[i]?.bind Argument.label

/-- The argument at a place has a label that an earlier argument has. A raw identifier is spelled
differently from a plain one, so that their labels differ. -/
def Repeats (args : Arguments) (i : Nat) (l : Ident) : Prop :=
  args.labelAt i = some l ∧ ∃ j < i, ∃ m, args.labelAt j = some m ∧ m.text = l.text

/-- The first place whose label stands earlier in the list. -/
structure FirstRepeated (args : Arguments) (i : Nat) (l : Ident) : Prop where
  repeats : args.Repeats i l
  least : ∀ j < i, ∀ m, ¬ args.Repeats j m

/-- One argument of the list has this label, and this is its value. -/
def OnlyOne (args : Arguments) (label : String) (e : Expr) : Prop :=
  ∃ i l, args[i]? = some ⟨some l, e⟩ ∧ l.text = label ∧
    ∀ j m, args.labelAt j = some m → m.text = label → j = i

theorem labelAt_eq_some {args : Arguments} {i : Nat} {l : Ident} :
    args.labelAt i = some l ↔ ∃ e, args[i]? = some ⟨some l, e⟩ := by
  unfold labelAt
  rw [Option.bind_eq_some_iff]
  constructor
  · rintro ⟨⟨label, e⟩, found, rfl⟩
    exact ⟨e, found⟩
  · rintro ⟨e, found⟩
    exact ⟨_, found, rfl⟩

/-! ## 1. Going through the list -/

/-- The argument at a place has a label that was seen before the list or stands earlier in it. -/
def Meets (seen : List String) (args : Arguments) (i : Nat) (l : Ident) : Prop :=
  args.labelAt i = some l ∧
    (l.text ∈ seen ∨ ∃ j < i, ∃ m, args.labelAt j = some m ∧ m.text = l.text)

/-- What has been seen behind an argument. -/
def seenBehind (seen : List String) (a : Argument) : List String :=
  match a.label with
  | some l => l.text :: seen
  | none => seen

theorem mem_seenBehind {seen : List String} {a : Argument} {text : String} :
    text ∈ seenBehind seen a ↔ text ∈ seen ∨ ∃ m, a.label = some m ∧ m.text = text := by
  unfold seenBehind
  cases a.label with
  | none => simp
  | some l => simp [or_comm, eq_comm]

theorem meets_zero {seen : List String} {a : Argument} {args : Arguments} {l : Ident} :
    Meets seen (a :: args) 0 l ↔ a.label = some l ∧ l.text ∈ seen := by
  refine and_congr_right fun _ => or_iff_left ?_
  rintro ⟨j, hj, -⟩
  exact absurd hj (Nat.not_lt_zero j)

/-- Behind the first argument, its label has been seen. -/
theorem meets_succ {seen : List String} {a : Argument} {args : Arguments} {i : Nat} {l : Ident} :
    Meets seen (a :: args) (i + 1) l ↔ Meets (seenBehind seen a) args i l := by
  refine and_congr_right fun _ => ?_
  rw [mem_seenBehind, or_assoc]
  refine or_congr_right ⟨?_, ?_⟩
  · rintro ⟨j, hj, m, hm, same⟩
    cases j with
    | zero => exact .inl ⟨m, hm, same⟩
    | succ j => exact .inr ⟨j, Nat.lt_of_succ_lt_succ hj, m, hm, same⟩
  · rintro (⟨m, hm, same⟩ | ⟨j, hj, m, hm, same⟩)
    · exact ⟨0, Nat.succ_pos i, m, hm, same⟩
    · exact ⟨j + 1, Nat.succ_lt_succ hj, m, hm, same⟩

theorem meets_nil {args : Arguments} {i : Nat} {l : Ident} :
    Meets [] args i l ↔ args.Repeats i l :=
  and_congr_right fun _ => or_iff_right List.not_mem_nil

theorem repeated?_cons (seen : List String) (a : Argument) (args : Arguments) :
    repeated? seen (a :: args) =
      match a.label with
      | some l => if l.text ∈ seen then some l else repeated? (seenBehind seen a) args
      | none => repeated? (seenBehind seen a) args := by
  rw [repeated?, seenBehind]
  cases a.label with
  | none => rfl
  | some l => simp only [List.contains_iff_mem]

/-- **Going through the list finds the first label that was met before**, or that there is none. By
the arguments; one of them either ends the search or is seen behind itself. -/
theorem repeated?_outcome (seen : List String) (args : Arguments) :
    (repeated? seen args = none ∧ ∀ i l, ¬ Meets seen args i l) ∨
      ∃ i l, repeated? seen args = some l ∧ Meets seen args i l ∧
        ∀ j < i, ∀ m, ¬ Meets seen args j m := by
  induction args generalizing seen with
  | nil =>
    refine .inl ⟨rfl, ?_⟩
    rintro i l ⟨found, -⟩
    nomatch found
  | cons a args ih =>
    by_cases first : ∃ l, Meets seen (a :: args) 0 l
    · obtain ⟨l, meets⟩ := first
      obtain ⟨label, mem⟩ := meets_zero.mp meets
      refine .inr ⟨0, l, ?_, meets, fun j hj => absurd hj (Nat.not_lt_zero j)⟩
      rw [repeated?_cons, label]
      exact if_pos mem
    · -- The first argument is not met before, so the search goes on behind it.
      have goesOn : repeated? seen (a :: args) = repeated? (seenBehind seen a) args := by
        rw [repeated?_cons]
        cases label : a.label with
        | none => rfl
        | some l => exact if_neg fun mem => first ⟨l, meets_zero.mpr ⟨label, mem⟩⟩
      rw [goesOn]
      rcases ih (seenBehind seen a) with ⟨none, unmet⟩ | ⟨i, l, found, meets, least⟩
      · refine .inl ⟨none, fun i l => ?_⟩
        cases i with
        | zero => exact fun meets => first ⟨l, meets⟩
        | succ i => exact fun meets => unmet i l (meets_succ.mp meets)
      · refine .inr ⟨i + 1, l, found, meets_succ.mpr meets, fun j hj m => ?_⟩
        cases j with
        | zero => exact fun meets => first ⟨m, meets⟩
        | succ j => exact fun meets => least j (Nat.lt_of_succ_lt_succ hj) m (meets_succ.mp meets)

/-! ## 2. Parsed lists -/

/-- A list that was read is parsed, unless a label is repeated; then the first one is reported. -/
theorem parse_outcome {ts : List Token} {args : Arguments} (h : read ts = .ok args) :
    (parse ts = .ok args ∧ ∀ i l, ¬ args.Repeats i l) ∨
      ∃ i l, parse ts = .error (.on [.ident l] (.duplicateArgument l.text)) ∧
        args.FirstRepeated i l := by
  rcases repeated?_outcome [] args with ⟨none, unmet⟩ | ⟨i, l, found, meets, least⟩
  · refine .inl ⟨?_, fun i l repeats => unmet i l (meets_nil.mpr repeats)⟩
    simp only [parse, h, none]
  · refine .inr ⟨i, l, ?_, meets_nil.mp meets, fun j hj m => ?_⟩
    · simp only [parse, h, found]
    · exact fun repeats => least j hj m (meets_nil.mpr repeats)

theorem read_of_parse {ts : List Token} {args : Arguments} (h : parse ts = .ok args) :
    read ts = .ok args := by
  unfold parse at h
  split at h
  next => nomatch h
  next found =>
    split at h
    next => nomatch h
    next =>
      injection h with h
      rw [found, h]

theorem distinct_of_unrepeated {args : Arguments} (unrepeated : ∀ i l, ¬ args.Repeats i l) :
    args.Distinct := by
  refine List.pairwise_iff_getElem.mpr fun i j hi hj before l m hl hm same => ?_
  have here : args.labelAt i = some l := by rw [labelAt, List.getElem?_eq_getElem hi]; exact hl
  have there : args.labelAt j = some m := by rw [labelAt, List.getElem?_eq_getElem hj]; exact hm
  exact unrepeated j m ⟨there, i, before, l, here, same⟩

/-- **No label occurs twice in a list that was parsed.** -/
theorem parse_distinct {ts : List Token} {args : Arguments} (h : parse ts = .ok args) :
    args.Distinct := by
  rcases parse_outcome (read_of_parse h) with ⟨-, unrepeated⟩ | ⟨i, l, refused, -⟩
  · exact distinct_of_unrepeated unrepeated
  · rw [refused] at h
    nomatch h

/-! ## 3. Looking up -/

theorem hasLabel_iff {label : String} {a : Argument} :
    hasLabel label a = true ↔ ∃ l, a.label = some l ∧ l.text = label := by
  unfold hasLabel
  cases a.label with
  | none =>
    constructor
    · intro h
      nomatch h
    · rintro ⟨l, hl, -⟩
      nomatch hl
  | some l =>
    constructor
    · intro h
      exact ⟨l, rfl, beq_iff_eq.mp h⟩
    · rintro ⟨m, hm, htext⟩
      injection hm with hm
      rw [hm]
      exact beq_iff_eq.mpr htext

variable {args : Arguments} {label : String} {e : Expr}

theorem gives_of_labeled (h : args.labeled label = some e) : args.Gives label e := by
  obtain ⟨a, found, rfl⟩ := Option.map_eq_some_iff.mp h
  obtain ⟨l, hl, htext⟩ := hasLabel_iff.mp (List.find?_some found)
  refine ⟨l, htext, ?_⟩
  rw [← hl]
  exact List.mem_of_find?_eq_some found

/-- **Looking a label up finds exactly what is given under it.** -/
theorem Distinct.labeled_eq_some (distinct : args.Distinct) :
    args.labeled label = some e ↔ args.Gives label e := by
  refine ⟨gives_of_labeled, ?_⟩
  rintro ⟨l, htext, mem⟩
  induction args with
  | nil => nomatch mem
  | cons a args ih =>
    obtain ⟨others, distinct⟩ := List.pairwise_cons.mp distinct
    unfold labeled
    cases first : hasLabel label a with
    | true =>
      rw [List.find?_cons_of_pos first]
      rcases List.mem_cons.mp mem with rfl | mem
      · rfl
      · -- The first argument with the label would be another one.
        obtain ⟨m, hm, hmtext⟩ := hasLabel_iff.mp first
        exact absurd (hmtext.trans htext.symm) (others _ mem m l hm rfl)
    | false =>
      rw [List.find?_cons_of_neg (Bool.not_eq_true _ ▸ first)]
      rcases List.mem_cons.mp mem with rfl | mem
      · rw [hasLabel_iff.mpr ⟨l, rfl, htext⟩] at first
        nomatch first
      · exact ih distinct mem

theorem Distinct.labeled_eq_none (distinct : args.Distinct) :
    args.labeled label = none ↔ ∀ e, ¬ args.Gives label e := by
  rw [Option.eq_none_iff_forall_ne_some]
  exact forall_congr' fun e => not_congr distinct.labeled_eq_some

/-- Under one label one value is given. -/
theorem Distinct.gives_unique (distinct : args.Distinct) {e' : Expr} (h : args.Gives label e)
    (h' : args.Gives label e') : e = e' := by
  have found := distinct.labeled_eq_some.mpr h
  rw [distinct.labeled_eq_some.mpr h'] at found
  injection found with found
  exact found.symm

/-- **Looking up does not depend on the order.** -/
theorem Distinct.labeled_perm {args' : Arguments} (distinct : args.Distinct)
    (distinct' : args'.Distinct) (perm : args.Perm args') (label : String) :
    args.labeled label = args'.labeled label := by
  ext e
  rw [distinct.labeled_eq_some, distinct'.labeled_eq_some]
  exact exists_congr fun l => and_congr_right fun _ => perm.mem_iff

/-- Where no label is repeated, a label that is given is given once. -/
theorem gives_iff_onlyOne (unrepeated : ∀ i l, ¬ args.Repeats i l) :
    args.Gives label e ↔ args.OnlyOne label e := by
  constructor
  · rintro ⟨l, text, mem⟩
    obtain ⟨i, found⟩ := List.getElem?_of_mem mem
    have here : args.labelAt i = some l := labelAt_eq_some.mpr ⟨e, found⟩
    refine ⟨i, l, found, text, fun j m there same => ?_⟩
    rcases Nat.lt_trichotomy j i with before | rfl | behind
    · exact absurd ⟨here, j, before, m, there, same.trans text.symm⟩ (unrepeated i l)
    · rfl
    · exact absurd ⟨there, i, behind, l, here, text.trans same.symm⟩ (unrepeated j m)
  · rintro ⟨i, l, found, text, -⟩
    exact ⟨l, text, List.mem_of_getElem? found⟩

theorem gives_iff_labelAt :
    (∃ e, args.Gives label e) ↔ ∃ i l, args.labelAt i = some l ∧ l.text = label := by
  constructor
  · rintro ⟨e, l, text, mem⟩
    obtain ⟨i, found⟩ := List.getElem?_of_mem mem
    exact ⟨i, l, labelAt_eq_some.mpr ⟨e, found⟩, text⟩
  · rintro ⟨i, l, found, text⟩
    obtain ⟨e, found⟩ := labelAt_eq_some.mp found
    exact ⟨e, l, text, List.mem_of_getElem? found⟩

theorem single?_eq_some : args.single? = some e ↔ args = [⟨none, e⟩] := by
  constructor
  · intro h
    unfold single? at h
    split at h
    · injection h with h
      rw [h]
    · nomatch h
  · rintro rfl
    rfl

end Arguments

/-! ## 4. Reports and answers -/

/-- **Labels are unique and looking up is exact.** A list of arguments that follows the grammar
fails exactly if two arguments have one label. Then an error is reported at the label of the first
argument whose label stands earlier in the list. In a list that does not fail, a value is found by a
label exactly if one argument has the label and this is its value, and nothing is found exactly if
no argument has it; and the only argument is found exactly in a list of one argument without a
label. -/
theorem argument_labels_exact {ts : List Token} {args : Arguments}
    (read : Arguments.read ts = .ok args) :
    ((∃ d, Arguments.parse ts = .error d) ↔
      ∃ i j l m, i < j ∧ args.labelAt i = some l ∧ args.labelAt j = some m ∧ l.text = m.text) ∧
    (∀ d, Arguments.parse ts = .error d →
      ∃ i l, args.FirstRepeated i l ∧ d.isError = true ∧
        d.problem.id = "playtomic::invalid_argument" ∧
        d.problem.message = "duplicate argument `" ++ l.text ++ "`" ∧
        d.start = l.span ∧ d.stop = l.span) ∧
    ∀ args', Arguments.parse ts = .ok args' → args' = args ∧
      (∀ label e, args.labeled label = some e ↔ args.OnlyOne label e) ∧
      (∀ label, args.labeled label = none ↔ ¬ ∃ i l, args.labelAt i = some l ∧ l.text = label) ∧
      ∀ e, args.single? = some e ↔ args = [⟨none, e⟩] := by
  rcases Arguments.parse_outcome read with ⟨parsed, unrepeated⟩ | ⟨i, l, refused, first⟩
  · rw [parsed]
    refine ⟨⟨fun refused => ?_, fun repeated => ?_⟩, fun d refused => ?_, fun args' same => ?_⟩
    · obtain ⟨d, refused⟩ := refused
      nomatch refused
    · obtain ⟨i, j, l, m, before, hl, hm, same⟩ := repeated
      exact absurd ⟨hm, i, before, l, hl, same⟩ (unrepeated j m)
    · nomatch refused
    · injection same with same
      have distinct := Arguments.distinct_of_unrepeated unrepeated
      refine ⟨same.symm, fun label e => ?_, fun label => ?_, fun e => Arguments.single?_eq_some⟩
      · rw [distinct.labeled_eq_some, Arguments.gives_iff_onlyOne unrepeated]
      · rw [distinct.labeled_eq_none, ← Arguments.gives_iff_labelAt, not_exists]
  · rw [refused]
    refine ⟨⟨fun _ => ?_, fun _ => ⟨_, rfl⟩⟩, fun d same => ?_, fun args' accepted => ?_⟩
    · obtain ⟨here, j, before, m, there, same⟩ := first.repeats
      exact ⟨j, i, m, l, before, there, here, same⟩
    · injection same with same
      subst same
      exact ⟨i, l, first, rfl, rfl, rfl, rfl, rfl⟩
    · nomatch accepted

/-- The label of an argument, at this place. -/
def labelIdent (text : String) (start : Nat) : Ident :=
  ⟨text, .range "attr" start (start + text.length)⟩

/-- A truth value, read as an expression. -/
def flagExpr (b : Bool) : Expr := .lit [] (word (toString b)) (.bool b)

/-- The tokens of `true, key = true, r#key = false`. -/
def labelledTokens : List Token :=
  code "true ," ++ .ident (labelIdent "key" 6) :: code "= true ," ++
    .ident (labelIdent "r#key" 18) :: code "= false"

/-- The arguments that these tokens are. -/
def labelledArguments : Arguments :=
  [⟨none, flagExpr true⟩, ⟨some (labelIdent "key" 6), flagExpr true⟩,
    ⟨some (labelIdent "r#key" 18), flagExpr false⟩]

theorem labelledArguments_read : Arguments.read labelledTokens = .ok labelledArguments := by cbv

theorem labelledArguments_parse : Arguments.parse labelledTokens = .ok labelledArguments := by cbv

/-- One more argument, whose label is the second one again. -/
def repeatedTokens : List Token :=
  labelledTokens ++ code "," ++ .ident (labelIdent "key" 33) :: code "= true"

theorem repeatedArguments_read : Arguments.read repeatedTokens =
    .ok (labelledArguments ++ [⟨some (labelIdent "key" 33), flagExpr true⟩]) := by cbv

/-- A raw label is not the plain one: both are found, with their own values. The plain one in a
further argument is an error there. -/
theorem labelledArguments_answers :
    (Arguments.parse labelledTokens = .ok labelledArguments ∧
      labelledArguments.labeled "key" = some (flagExpr true) ∧
      labelledArguments.labeled "r#key" = some (flagExpr false)) ∧
    ∃ d, Arguments.parse repeatedTokens = .error d ∧
      d.problem.message = "duplicate argument `key`" ∧ d.start = .range "attr" 33 36 := by
  constructor
  · obtain ⟨-, -, answers⟩ := argument_labels_exact labelledArguments_read
    obtain ⟨-, found, -, -⟩ := answers _ labelledArguments_parse
    refine ⟨labelledArguments_parse, (found _ _).mpr ⟨1, _, rfl, rfl, fun j m here same => ?_⟩,
      (found _ _).mpr ⟨2, _, rfl, rfl, fun j m here same => ?_⟩⟩
    · rcases j with _ | _ | _ | j
      all_goals cases here
      · rfl
      · exact absurd same (by decide)
    · rcases j with _ | _ | _ | j
      all_goals cases here
      · exact absurd same (by decide)
      · rfl
  · obtain ⟨fails, reports, -⟩ := argument_labels_exact repeatedArguments_read
    obtain ⟨d, refused⟩ := fails.mpr ⟨1, 3, _, _, by decide, rfl, rfl, rfl⟩
    obtain ⟨i, l, first, -, -, message, start, -⟩ := reports d refused
    obtain ⟨here, j, before, m, there, same⟩ := first.repeats
    obtain rfl : l = labelIdent "key" 33 := by
      rcases i with _ | _ | _ | _ | i
      all_goals cases here
      · obtain rfl : j = 0 := by omega
        cases there
      · obtain rfl | rfl : j = 0 ∨ j = 1 := by omega
        · cases there
        · cases there
          exact absurd same (by decide)
      · rfl
    exact ⟨d, refused, message, start⟩

end Graft
