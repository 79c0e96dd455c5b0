import Graft.Proofs.Method.Reading
import Graft.Proofs.Transform.Replies
import Graft.Expansion
import Mathlib

/-!
# Names of detecting methods

Two variants of an enum may lead to one name, since a name is put into snake case. The variants are
gone through in order, and the first one whose name was seen before is reported together with the
one it was seen at.

* `FirstRepeat`: the first place in a list whose entry occurs before, and where it does.
* `Detector.clash?_eq_none`, `Detector.clash?_eq_some`: what going through the cases finds.
* **`detector_clashes_exact`**: which enums are refused, with which report, and what all others
  gain.
-/

namespace Graft

/-! ## 1. Going through the cases -/

/-- **The first repetition in a list**: the entry at `j` stands at `i` before, and at no other place
before `j`; in front of `j` nothing is repeated. -/
structure FirstRepeat (names : List String) (i j : Nat) : Prop where
  earlier : i < j
  inside : j < names.length
  same : names[i]? = names[j]?
  only : ∀ k < j, names[k]? = names[j]? → k = i
  least : ∀ k l, k < l → l < j → names[k]? ≠ names[l]?

/-- The entry behind a list without repetitions that has it. -/
theorem firstRepeat_append {before : List String} {name : String} (nodup : before.Nodup) {i : Nat}
    (seen : before[i]? = some name) (after : List String) :
    FirstRepeat (before ++ name :: after) i before.length := by
  have hi := (List.getElem?_eq_some_iff.mp seen).1
  have front : ∀ k < before.length, (before ++ name :: after)[k]? = before[k]? :=
    fun k hk => List.getElem?_append_left hk
  have here : (before ++ name :: after)[before.length]? = some name := by simp
  refine ⟨hi, by simp, ?_, fun k hk same => ?_, fun k l hkl hl same => ?_⟩
  · rw [front i hi, here, seen]
  · rw [front k hk, here, ← seen] at same
    exact (List.getElem?_inj hk nodup).mp same
  · have hk : k < before.length := by omega
    rw [front k hk, front l hl] at same
    have := (List.getElem?_inj hk nodup).mp same
    omega

/-- The name of the method that detects a case. -/
def EnumCase.detectorName (c : EnumCase) : String := Detector.nameFor c.name

namespace Detector

variable {seen rest : List EnumCase}

theorem find?_seen_eq_none {c : EnumCase} :
    seen.find? (fun s => nameFor s.name == nameFor c.name) = none ↔
      c.detectorName ∉ seen.map EnumCase.detectorName := by
  rw [List.find?_eq_none, List.mem_map]
  constructor
  · intro none found
    obtain ⟨s, mem, same⟩ := found
    exact none s mem (beq_iff_eq.mpr same)
  · intro fresh s mem same
    exact fresh ⟨s, mem, beq_iff_eq.mp same⟩

theorem nodup_concat {c : EnumCase} (distinct : (seen.map EnumCase.detectorName).Nodup)
    (fresh : c.detectorName ∉ seen.map EnumCase.detectorName) :
    ((seen ++ [c]).map EnumCase.detectorName).Nodup := by
  rw [List.map_append, List.map_singleton]
  exact List.nodup_append_comm.mp (List.nodup_cons.mpr ⟨fresh, distinct⟩)

/-- **Nothing is found if all names are distinct, and only then.** By the cases that are left; those
seen have distinct names, which one more round keeps. -/
theorem clash?_eq_none (distinct : (seen.map EnumCase.detectorName).Nodup)
    (h : clash? seen rest = none) : ((seen ++ rest).map EnumCase.detectorName).Nodup := by
  induction rest generalizing seen with
  | nil =>
    rw [List.append_nil]
    exact distinct
  | cons c rest ih =>
    unfold clash? at h
    split at h
    · nomatch h
    · rename_i none
      have more := nodup_concat distinct (find?_seen_eq_none.mp none)
      have all := ih more h
      rw [List.append_assoc] at all
      exact all

/-- **What is found is the first case whose name was seen before**, and where it was seen. -/
theorem clash?_eq_some {first second : EnumCase}
    (distinct : (seen.map EnumCase.detectorName).Nodup)
    (h : clash? seen rest = some (first, second)) :
    ∃ before after, rest = before ++ second :: after ∧
      ((seen ++ before).map EnumCase.detectorName).Nodup ∧ first ∈ seen ++ before ∧
      first.detectorName = second.detectorName := by
  induction rest generalizing seen with
  | nil => nomatch h
  | cons c rest ih =>
    unfold clash? at h
    split at h
    · rename_i s found
      injection h with h
      injection h with h₁ h₂
      subst h₁ h₂
      refine ⟨[], rest, rfl, ?_, ?_, ?_⟩
      · rw [List.append_nil]
        exact distinct
      · rw [List.append_nil]
        exact List.mem_of_find?_eq_some found
      · have same := List.find?_some found
        exact beq_iff_eq.mp same
    · rename_i none
      have more := nodup_concat distinct (find?_seen_eq_none.mp none)
      obtain ⟨before, after, split, nodup, mem, same⟩ := ih more h
      rw [List.append_assoc] at nodup mem
      exact ⟨c :: before, after, by rw [split]; rfl, nodup, mem, same⟩

end Detector

/-! ## 2. Enums -/

/-- The case that a variant is. -/
def Variant.case (v : Variant) : EnumCase := ⟨v.ident, v.fields.shape⟩

/-- The name of the method that detects a variant: the variant's own name in snake case, behind
`is_`. -/
def Variant.detectorName (v : Variant) : String :=
  "is_" ++ String.ofList (snakeCase v.ident.unraw.toList)

/-- The names of the methods that are declared. -/
def declaredNames (decls : List (List Token)) : List (Option String) :=
  decls.map fun ts => (Method.read? ts).map fun (name, _) => name.text

/-- **The report of two variants with one name**: an error at the second variant, which names the
first one and then the second. -/
structure Diagnostic.ReportsClash (d : Diagnostic) (first second : Variant) : Prop where
  error : d.isError = true
  id : d.problem.id = "playtomic::duplicate_member"
  start : d.start = second.ident.span
  stop : d.stop = second.ident.span
  message : d.problem.message = "`" ++ second.detectorName ++ "` would be generated for both `" ++
    first.ident.unraw ++ "` and `" ++ second.ident.unraw ++ "`"

section Enums

variable (head : TypeHead) (span : Span) (variants : List Variant) (trailing : Bool)

theorem Item.cases_enum :
    (Item.enum head span variants trailing).outline.cases = variants.map Variant.case := by
  unfold outline Outline.ofHead Outline.cases
  rw [List.filterMap_map]
  exact congrFun List.filterMap_eq_map variants

theorem Variant.map_detectorName :
    (variants.map Variant.case).map EnumCase.detectorName = variants.map Variant.detectorName := by
  rw [List.map_map]
  rfl

/-- The declarations of the methods that detect variants. -/
def detectorDecls (vis : Visibility) : List (List Token) :=
  variants.map fun v => ((Detector.ofCase v.case).method vis).tokens

theorem declaredNames_detectorDecls (vis : Visibility) :
    declaredNames (detectorDecls variants vis) = (variants.map Variant.detectorName).map some := by
  unfold declaredNames detectorDecls
  rw [List.map_map, List.map_map]
  refine List.map_congr_left fun v _ => ?_
  rw [Function.comp_apply, Method.read?_tokens]
  rfl

namespace Transform

variable {variants} (args : Arguments) (std : Bool)

theorem caseDetection_of_clash {first second : EnumCase}
    (h : Detector.clash? [] (variants.map Variant.case) = some (first, second)) :
    Transform.caseDetection.run ⟨.item (.enum head span variants trailing), args, std⟩ =
      .error (.on [.ident second.name] (.duplicateDetector (Detector.nameFor second.name)
        first.name.unraw second.name.unraw)) := by
  unfold run addDetectors
  dsimp only [Site.item?]
  rw [Item.cases_enum, Detector.all, h]
  rfl

theorem caseDetection_of_distinct (h : Detector.clash? [] (variants.map Variant.case) = none) :
    Transform.caseDetection.run ⟨.item (.enum head span variants trailing), args, std⟩ =
      .ok (.just (if variants = [] then .nothing
        else .declarations (detectorDecls variants head.vis))) := by
  unfold run addDetectors
  dsimp only [Site.item?]
  rw [Item.cases_enum, Detector.all, h]
  cases variants with
  | nil => rfl
  | cons v rest =>
    rw [if_neg (List.cons_ne_nil v rest), detectorDecls]
    simp only [List.map_cons, List.map_map]
    rfl

/-- Nothing but an enum has detecting methods. -/
theorem caseDetection_of_other {r : Request}
    (other : ∀ head span variants trailing, r.site ≠ .item (.enum head span variants trailing)) :
    Transform.caseDetection.run r = .ok (.just .nothing) := by
  show addDetectors r = _
  unfold addDetectors
  split
  · rfl
  · rename_i i found
    split
    · rename_i kind
      obtain ⟨head, span, variants, trailing, rfl⟩ := Item.eq_enum (beq_iff_eq.mp kind)
      exact absurd (Site.item?_eq_some found) (other head span variants trailing)
    · rfl

end Transform

variable {variants}

/-- **The first two cases with one name are the first repetition among the names.** -/
theorem firstRepeat_of_clash? {first second : EnumCase}
    (h : Detector.clash? [] (variants.map Variant.case) = some (first, second)) :
    ∃ i j v w, FirstRepeat (variants.map Variant.detectorName) i j ∧ variants[i]? = some v ∧
      variants[j]? = some w ∧ first = v.case ∧ second = w.case := by
  have start : (([] : List EnumCase).map EnumCase.detectorName).Nodup := List.nodup_nil
  obtain ⟨before, after, split, nodup, mem, same⟩ := Detector.clash?_eq_some start h
  rw [List.nil_append] at nodup mem
  obtain ⟨vs, ws, rfl, hbefore, hws⟩ := List.map_eq_append_iff.mp split
  obtain ⟨w, rest, rfl, rfl, hafter⟩ := List.map_eq_cons_iff.mp hws
  subst hbefore
  obtain ⟨v, hv, rfl⟩ := List.mem_map.mp mem
  obtain ⟨i, hi⟩ := List.getElem?_of_mem hv
  rw [Variant.map_detectorName] at nodup
  have seen : (vs.map Variant.detectorName)[i]? = some w.detectorName := by
    rw [List.getElem?_map, hi]
    exact congrArg some same
  refine ⟨i, vs.length, v, w, ?_, ?_, by simp, rfl, rfl⟩
  · have repeated := firstRepeat_append nodup seen (rest.map Variant.detectorName)
    rw [List.length_map] at repeated
    rw [List.map_append, List.map_cons]
    exact repeated
  · rw [List.getElem?_append_left (List.getElem?_eq_some_iff.mp hi).1, hi]

theorem Variant.nodup_of_clash? (h : Detector.clash? [] (variants.map Variant.case) = none) :
    (variants.map Variant.detectorName).Nodup := by
  have start : (([] : List EnumCase).map EnumCase.detectorName).Nodup := List.nodup_nil
  have nodup := Detector.clash?_eq_none start h
  rw [List.nil_append, Variant.map_detectorName] at nodup
  exact nodup

end Enums

/-- **Clashes are reported exactly.** An enum is refused exactly if two of its variants lead to one
name. Then nothing is added, and the one thing reported is an error at the first variant whose name
occurs before, which names the only earlier variant with that name and then the variant itself. An
enum that is accepted gains one method for each variant, in order and with distinct names. An enum
without variants, and whatever is no enum, gains nothing, and nothing is reported. -/
theorem detector_clashes_exact :
    (∀ head span variants trailing args std,
      let r : Request := ⟨.item (.enum head span variants trailing), args, std⟩
      let names := variants.map Variant.detectorName
      ((∃ d, Transform.caseDetection.run r = .error d) ↔
        ∃ i j, i < j ∧ j < names.length ∧ names[i]? = names[j]?) ∧
      (∀ d, Transform.caseDetection.run r = .error d →
        Transform.caseDetection.invoke r = (.nothing, [d]) ∧
        ∃ i j first second, FirstRepeat names i j ∧ variants[i]? = some first ∧
          variants[j]? = some second ∧ d.ReportsClash first second) ∧
      ∀ reply, Transform.caseDetection.run r = .ok reply → reply.notes = [] ∧ names.Nodup ∧
        (variants = [] → reply.addition = .nothing) ∧
        (variants ≠ [] → ∃ decls, reply.addition = .declarations decls ∧
          declaredNames decls = names.map some)) ∧
    ∀ r : Request,
      (∀ head span variants trailing, r.site ≠ .item (.enum head span variants trailing)) →
      Transform.caseDetection.run r = .ok (.just .nothing) := by
  refine ⟨fun head span variants trailing args std => ?_, fun r => Transform.caseDetection_of_other⟩
  dsimp only
  cases h : Detector.clash? [] (variants.map Variant.case) with
  | none =>
    have run := Transform.caseDetection_of_distinct head span trailing args std h
    have nodup := Variant.nodup_of_clash? h
    rw [run]
    refine ⟨⟨fun refused => ?_, fun repeated => ?_⟩, fun d refused => ?_, fun reply accepted => ?_⟩
    · obtain ⟨d, refused⟩ := refused
      nomatch refused
    · obtain ⟨i, j, hij, hj, same⟩ := repeated
      have := (List.getElem?_inj (hij.trans hj) nodup).mp same
      omega
    · nomatch refused
    · injection accepted with accepted
      subst accepted
      refine ⟨rfl, nodup, fun empty => if_pos empty, fun some => ?_⟩
      exact ⟨_, if_neg some, declaredNames_detectorDecls variants head.vis⟩
  | some clash =>
    obtain ⟨first, second⟩ := clash
    have run := Transform.caseDetection_of_clash head span trailing args std h
    obtain ⟨i, j, v, w, repeated, hv, hw, rfl, rfl⟩ := firstRepeat_of_clash? h
    refine ⟨⟨fun _ => ?_, fun _ => ⟨_, run⟩⟩, fun d refused => ?_, fun reply accepted => ?_⟩
    · exact ⟨i, j, repeated.earlier, repeated.inside, repeated.same⟩
    · refine ⟨?_, i, j, v, w, repeated, hv, hw, ?_⟩
      · unfold Transform.invoke
        rw [refused]
      · rw [run] at refused
        injection refused with refused
        subst refused
        exact ⟨rfl, rfl, rfl, rfl, rfl⟩
    · rw [run] at accepted
      nomatch accepted

/-- A variant without a payload, at this place. -/
def plainVariant (name : String) (start : Nat) : Variant :=
  ⟨[], ⟨name, .range "item" start (start + name.length)⟩, .unit, none⟩

/-- The head of `enum Failure`. -/
def failureHead : TypeHead := ⟨[], .inherited, .callSite, .new "Failure", .empty⟩

/-- `enum Failure { Timeout, r#Timeout }` is refused at the second variant. With the first variant
alone it gains one method, and `struct Failure;` gains nothing. -/
theorem failure_answers :
    (∃ d, Transform.caseDetection.run ⟨.item (.enum failureHead .callSite
        [plainVariant "Timeout" 15, plainVariant "r#Timeout" 24] false), [], true⟩ = .error d ∧
      d.ReportsClash (plainVariant "Timeout" 15) (plainVariant "r#Timeout" 24)) ∧
    (∃ reply decls, Transform.caseDetection.run ⟨.item (.enum failureHead .callSite
        [plainVariant "Timeout" 15] false), [], true⟩ = .ok reply ∧
      reply.addition = .declarations decls ∧
      declaredNames decls = [some (plainVariant "Timeout" 15).detectorName]) ∧
    Transform.caseDetection.run ⟨.item (.struct failureHead .unit), [], true⟩ =
      .ok (.just .nothing) := by
  refine ⟨?_, ?_, detector_clashes_exact.2 _ fun _ _ _ _ site => nomatch site⟩
  · obtain ⟨refused, report, -⟩ := detector_clashes_exact.1 failureHead .callSite
      [plainVariant "Timeout" 15, plainVariant "r#Timeout" 24] false [] true
    have same : (plainVariant "Timeout" 15).detectorName =
        (plainVariant "r#Timeout" 24).detectorName := by
      have unraw : (plainVariant "Timeout" 15).ident.unraw =
          (plainVariant "r#Timeout" 24).ident.unraw := by decide
      unfold Variant.detectorName
      rw [unraw]
    obtain ⟨d, run⟩ := refused.mpr ⟨0, 1, by decide, by decide, congrArg some same⟩
    obtain ⟨-, i, j, first, second, found, hi, hj, reports⟩ := report d run
    have inside : j < 2 := found.inside
    have earlier := found.earlier
    obtain ⟨rfl, rfl⟩ : i = 0 ∧ j = 1 := by omega
    obtain rfl : plainVariant "Timeout" 15 = first := Option.some.inj hi
    obtain rfl : plainVariant "r#Timeout" 24 = second := Option.some.inj hj
    exact ⟨d, run, reports⟩
  · obtain ⟨refused, -, accepted⟩ := detector_clashes_exact.1 failureHead .callSite
      [plainVariant "Timeout" 15] false [] true
    cases run : Transform.caseDetection.run ⟨.item (.enum failureHead .callSite
        [plainVariant "Timeout" 15] false), [], true⟩ with
    | error d =>
      obtain ⟨i, j, hij, hj, -⟩ := refused.mp ⟨d, run⟩
      have single : j < 1 := hj
      omega
    | ok reply =>
      obtain ⟨-, -, -, some⟩ := accepted reply run
      obtain ⟨decls, added, names⟩ := some (List.cons_ne_nil _ _)
      exact ⟨reply, decls, rfl, added, names⟩

end Graft
