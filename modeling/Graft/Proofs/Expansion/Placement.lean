import Graft.Proofs.Grammar.AttributeBody
import Graft.Proofs.Transform.Replies
import Mathlib

/-!
# Where additions stand

What a transform adds stands in the expansion whole, once, and at its place; what it was attached to
is kept.

* `Placed`: for each transform, the tokens that an addition of it comes to at a site. It is written
  without `splice`, one line for each form of output.
* `withFieldAttributes_eq_mapFieldsIdx`: the fields that are listed by their numbers gain the
  attribute, and nothing else changes.
* `splice_placed`: no reply of a transform meets a branch of `splice` that drops it, and none is
  refused.
* `Transform.expandAt_of_ok`: a transform that answers expands to its placed addition.
-/

namespace Graft

/-! ## 1. The output of each transform -/

/-- The implementation of a declared type that holds some declarations, in order. -/
def implTokens (h : TypeHead) (decls : List (List Token)) : List Token :=
  [word "impl"] ++ Part.tokensOf h.generics.implParts ++ [.ident h.ident] ++
    Part.tokensOf h.generics.nameParts ++ Part.tokensOf h.generics.clauseParts ++
    [braces decls.flatten]

/-- A field with one more attribute, behind those it has. -/
def Field.withAttribute (a : Attribute) (f : Field) : Field := { f with attrs := f.attrs ++ [a] }

/-- An item whose own fields are changed. -/
def Item.mapFields (g : Field → Field) : Item → Item
  | .struct head (.named span fields trailing) => .struct head (.named span (fields.map g) trailing)
  | .struct head (.unnamed span fields trailing) =>
    .struct head (.unnamed span (fields.map g) trailing)
  | .union head span fields trailing => .union head span (fields.map g) trailing
  | item => item

/-- The tokens of a site with an addition in its place. -/
inductive Placed : Transform → Site → Addition → List Token → Prop
  /-- Nothing is added: the site is left alone. -/
  | nothing (t : Transform) (site : Site) : Placed t site .nothing site.tokens
  /-- An expression stands for everything. -/
  | pair (site : Site) (expr : List Token) : Placed .stringify site (.expression expr) expr
  | url (site : Site) (expr : List Token) : Placed .validatedUrl site (.expression expr) expr
  /-- The use of something deprecated follows the site. -/
  | warning (site : Site) (decl : List Token) :
      Placed .warning site (.declarations [decl]) (site.tokens ++ decl)
  /-- The sibling follows its function. -/
  | sibling (f : FnItem) (decl : List Token) :
      Placed .asyncBridge (.item (.function f)) (.declarations [decl])
        ((Item.function f).tokens ++ decl)
  /-- An implementation of the type, with the declarations in it, follows the type. -/
  | copy (head : TypeHead) (fields : Fields) (decls : List (List Token)) :
      Placed .copyable (.item (.struct head fields)) (.declarations decls)
        ((Item.struct head fields).tokens ++ implTokens head decls)
  | detectors (head : TypeHead) (span : Span) (variants : List Variant) (trailing : Bool)
      (decls : List (List Token)) :
      Placed .caseDetection (.item (.enum head span variants trailing)) (.declarations decls)
        ((Item.enum head span variants trailing).tokens ++ implTokens head decls)
  /-- The type, each of its fields with the attribute that is written with this inside. -/
  | fields {a : Attribute} (i : Item) (inside : List Token) (chosen : List Nat)
      (written : a.render = operator "#" ++ [brackets inside]) :
      Placed .wrapStoredProperties (.item i) (.fieldAttribute inside chosen)
        (i.mapFields (Field.withAttribute a)).tokens
  /-- Getter and setter stand for the declaration. -/
  | accessors (d : PropertyDecl) (getter setter : List Token) :
      Placed .storedAccess (.property d) (.accessors getter setter) (getter ++ setter)
  /-- One attribute that derives the trait comes before the type. -/
  | equality (i : Item) (path : Path) :
      Placed .equatable (.item i) (.conformance path)
        (operator "#" ++ [brackets [word "derive", parens path.tokens]] ++ i.tokens)

/-! ## 2. Fields -/

/-- An item whose own fields are changed, each according to its number. -/
def Item.mapFieldsIdx (g : Nat → Field → Field) : Item → Item
  | .struct head (.named span fields trailing) =>
    .struct head (.named span (fields.mapIdx g) trailing)
  | .struct head (.unnamed span fields trailing) =>
    .struct head (.unnamed span (fields.mapIdx g) trailing)
  | .union head span fields trailing => .union head span (fields.mapIdx g) trailing
  | item => item

/-- A field that gains an attribute if its number is among those listed. -/
def Field.withAttributeIn (chosen : List Nat) (a : Attribute) (k : Nat) (f : Field) : Field :=
  if k ∈ chosen then f.withAttribute a else f

theorem addToFields_eq_mapIdx {inside : List Token} {a : Attribute}
    (ha : Attribute.ofBody inside = .ok a) (chosen : List Nat) (fields : List Field)
    (index : Nat) :
    addToFields inside chosen index fields =
      .ok (fields.mapIdx fun k => Field.withAttributeIn chosen a (index + k)) := by
  induction fields generalizing index with
  | nil => rfl
  | cons f rest ih =>
    have hshift : (fun k => Field.withAttributeIn chosen a (index + 1 + k)) =
        fun k => Field.withAttributeIn chosen a (index + (k + 1)) := by
      funext k
      rw [Nat.add_assoc, Nat.add_comm 1 k]
    unfold addToFields
    rw [ih, hshift, List.mapIdx_cons]
    by_cases hindex : index ∈ chosen
    · rw [List.contains_iff_mem.mpr hindex, ha]
      simp only [Field.withAttributeIn, Nat.add_zero, if_pos hindex]
      rfl
    · rw [Bool.eq_false_iff.mpr fun h => hindex (List.contains_iff_mem.mp h)]
      simp only [Field.withAttributeIn, Nat.add_zero, if_neg hindex]
      rfl

/-- **The listed fields gain the attribute, each once**, and nothing else changes. -/
theorem withFieldAttributes_eq_mapFieldsIdx {inside : List Token} {a : Attribute}
    (ha : Attribute.ofBody inside = .ok a) (chosen : List Nat) (i : Item) :
    i.withFieldAttributes inside chosen =
      .ok (i.mapFieldsIdx (Field.withAttributeIn chosen a)) := by
  cases i with
  | struct head fields =>
    cases fields with
    | unit => rfl
    | named span fields trailing =>
      simp only [Item.withFieldAttributes, addToFields_eq_mapIdx ha, Nat.zero_add]
      rfl
    | unnamed span fields trailing =>
      simp only [Item.withFieldAttributes, addToFields_eq_mapIdx ha, Nat.zero_add]
      rfl
  | union head span fields trailing =>
    simp only [Item.withFieldAttributes, addToFields_eq_mapIdx ha, Nat.zero_add]
    rfl
  | enum => rfl
  | function => rfl
  | other => rfl
  | verbatim => rfl

theorem properties_ofFields (kind : DeclKind) (head : TypeHead) (fields : List Field) :
    (Outline.ofHead kind head (Outline.ofFields fields)).properties =
      fields.mapIdx Property.ofField := by
  simp only [Outline.properties, Outline.ofHead, Outline.ofFields, List.mapIdx_eq_zipIdx_map,
    List.filterMap_map, Function.comp_def, List.filterMap_eq_map']

theorem isInstanceStored_ofField (k : Nat) (f : Field) :
    (Property.ofField k f).isInstanceStored = true := by
  unfold Property.ofField
  split <;> rfl

theorem Property.ty_ofField (i : Nat) (f : Field) : (Property.ofField i f).ty = some f.ty := by
  unfold ofField
  split <;> rfl

/-- Every field of a type is a property that each value stores. -/
theorem mem_storedFields (kind : DeclKind) (head : TypeHead) {fields : List Field} {k : Nat}
    (hk : k < fields.length) :
    k ∈ Transform.storedFields (.ofHead kind head (Outline.ofFields fields)) := by
  rw [Transform.storedFields, properties_ofFields]
  refine List.mem_map.mpr ⟨(k, .ofField k fields[k]), ?_, rfl⟩
  refine List.mem_filter.mpr ⟨?_, isInstanceStored_ofField k _⟩
  exact List.mem_mapIdx.mpr ⟨k, by simpa using hk, by simp⟩

theorem mapIdx_storedFields (a : Attribute) (kind : DeclKind) (head : TypeHead)
    (fields : List Field) :
    fields.mapIdx (Field.withAttributeIn
        (Transform.storedFields (.ofHead kind head (Outline.ofFields fields))) a) =
      fields.map (Field.withAttribute a) := by
  refine List.ext_getElem (by simp) fun k h₁ h₂ => ?_
  have hk : k < fields.length := by simpa using h₂
  rw [List.getElem_mapIdx, List.getElem_map, Field.withAttributeIn,
    if_pos (mem_storedFields kind head hk)]

theorem Item.mapFieldsIdx_storedFields (a : Attribute) (i : Item) :
    i.mapFieldsIdx (Field.withAttributeIn (Transform.storedFields i.outline) a) =
      i.mapFields (Field.withAttribute a) := by
  cases i with
  | struct head fields =>
    cases fields with
    | unit => rfl
    | named | unnamed =>
      simp only [Item.mapFieldsIdx, Item.mapFields, Item.outline, Fields.toList,
        mapIdx_storedFields]
  | union => simp only [Item.mapFieldsIdx, Item.mapFields, Item.outline, mapIdx_storedFields]
  | enum => rfl
  | function => rfl
  | other => rfl
  | verbatim => rfl

/-- **Every field of a struct or union gains the attribute**, and nothing else changes. -/
theorem withFieldAttributes_eq_mapFields {inside : List Token} {a : Attribute}
    (ha : Attribute.ofBody inside = .ok a) (i : Item) :
    i.withFieldAttributes inside (Transform.storedFields i.outline) =
      .ok (i.mapFields (Field.withAttribute a)) := by
  rw [withFieldAttributes_eq_mapFieldsIdx ha, Item.mapFieldsIdx_storedFields]

/-! ## 3. Placing -/

/-- **No reply of a transform is dropped or refused where it is placed.** -/
theorem splice_placed {r : Request} {t : Transform} {reply : Reply}
    (h : Transform.Replies r t reply) :
    ∃ ts, splice t.placement r.site reply.addition = .ok ts ∧
      Placed t r.site reply.addition ts := by
  cases h with
  | pair arg => exact ⟨_, rfl, .pair _ _⟩
  | url arg static valid => exact ⟨_, rfl, .url _ _⟩
  | warning arg static =>
    refine ⟨_, rfl, ?_⟩
    rw [List.flatten_singleton]
    exact .warning _ _
  | noSibling => exact ⟨_, rfl, .nothing _ _⟩
  | sibling site found =>
    rw [site]
    refine ⟨_, rfl, ?_⟩
    rw [List.flatten_singleton]
    exact .sibling _ _
  | noCopy site => exact ⟨_, rfl, .nothing _ _⟩
  | copy site =>
    rw [site]
    exact ⟨_, rfl, .copy _ _ _⟩
  | noDetectors => exact ⟨_, rfl, .nothing _ _⟩
  | detectors site distinct =>
    rw [site]
    exact ⟨_, rfl, .detectors _ _ _ _ _⟩
  | noFields => exact ⟨_, rfl, .nothing _ _⟩
  | fields site kind spelled =>
    obtain ⟨a, ha, -, hwritten⟩ := Attribute.ofBody_of_text spelled
    rw [site]
    refine ⟨_, ?_, .fields _ _ _ hwritten⟩
    simp only [splice, Reply.just, withFieldAttributes_eq_mapFields ha]
    rfl
  | accessors site made =>
    rw [site]
    exact ⟨_, rfl, .accessors _ _ _⟩
  | derived site => exact ⟨_, rfl, .nothing _ _⟩
  | equality site kind =>
    rw [site]
    exact ⟨_, rfl, .equality _ _⟩

/-! ## 4. Expansions -/

theorem Transform.invoke_of_ok {t : Transform} {r : Request} {reply : Reply}
    (h : t.run r = .ok reply) : t.invoke r = (reply.addition, reply.notes) := by
  unfold Transform.invoke
  simp only [h, (Transform.run_replies h).notes_quiet]
  rfl

/-- **A transform that answers expands to its placed addition** and to the notes of its reply. -/
theorem Transform.expandAt_of_ok {t : Transform} {r : Request} {reply : Reply}
    (h : t.run r = .ok reply) :
    (t.expandAt r).diagnostics = reply.notes ∧
      Placed t r.site reply.addition (t.expandAt r).tokens := by
  obtain ⟨ts, hts, hplaced⟩ := splice_placed (Transform.run_replies h)
  unfold Transform.expandAt
  rw [Transform.invoke_of_ok h]
  dsimp only
  rw [hts]
  exact ⟨rfl, hplaced⟩

theorem Transform.expandAt_of_splice {t : Transform} {r : Request} {addition : Addition}
    {ts : List Token} (h : t.run r = .ok (.just addition))
    (hts : splice t.placement r.site addition = .ok ts) : t.expandAt r = ⟨ts, []⟩ := by
  unfold Transform.expandAt
  rw [Transform.invoke_of_ok h]
  dsimp only [Reply.just]
  rw [hts]

/-- **What a request leads to is placed without a failure**, whatever the request. -/
theorem Transform.splice_invoke (t : Transform) (r : Request) :
    ∃ ts, splice t.placement r.site (t.invoke r).1 = .ok ts := by
  cases h : t.run r with
  | error d =>
    refine ⟨r.site.tokens, ?_⟩
    unfold Transform.invoke
    rw [h]
    rfl
  | ok reply =>
    rw [Transform.invoke_of_ok h]
    obtain ⟨ts, hts, -⟩ := splice_placed (Transform.run_replies h)
    exact ⟨ts, hts⟩

theorem attachment_of_ok {std : Bool} {name : String} {attr item : List Token} {t : Transform}
    {args : Arguments} {site : Site} (hname : Transform.resolve name = .ok t)
    (hargs : Arguments.parse attr = .ok args) (hsite : Site.parse t.placement item = .ok site) :
    attachment std name attr item = .ok (t, ⟨site, args, std⟩) := by
  unfold attachment
  rw [hname, hargs]
  show (Site.parse t.placement item >>= _) = _
  rw [hsite]
  rfl

theorem invocation_of_ok {std : Bool} {name : String} {input : List Token} {t : Transform}
    {args : Arguments} (hname : Transform.resolve name = .ok t)
    (hargs : Arguments.parse input = .ok args) :
    invocation std name input = .ok (t, ⟨.invocation, args, std⟩) := by
  unfold invocation
  rw [hname, hargs]
  rfl

theorem expandAttached_of_ok {std : Bool} {name : String} {attr item : List Token} {t : Transform}
    {r : Request} (h : attachment std name attr item = .ok (t, r)) :
    expandAttached std name attr item = t.expandAt r := by
  unfold expandAttached
  rw [h]

theorem expandInvoked_of_ok {std : Bool} {name : String} {input : List Token} {t : Transform}
    {r : Request} (h : invocation std name input = .ok (t, r)) :
    expandInvoked std name input = t.expandAt r := by
  unfold expandInvoked
  rw [h]

/-- **What a transform adds is placed, whole and once, in every expansion in which it succeeds**,
attached or invoked, and what it was attached to is kept. -/
theorem expansion_places_addition (std : Bool) (name : String) (t : Transform)
    (args : Arguments) (reply : Reply) (hname : Transform.resolve name = .ok t) :
    (∀ attr item site, Arguments.parse attr = .ok args → Site.parse t.placement item = .ok site →
      t.run ⟨site, args, std⟩ = .ok reply →
      Placed t site reply.addition (expandAttached std name attr item).tokens) ∧
    (∀ input, Arguments.parse input = .ok args → t.run ⟨.invocation, args, std⟩ = .ok reply →
      Placed t .invocation reply.addition (expandInvoked std name input).tokens) := by
  refine ⟨fun attr item site hargs hsite hrun => ?_, fun input hargs hrun => ?_⟩
  · rw [expandAttached_of_ok (attachment_of_ok hname hargs hsite)]
    exact (Transform.expandAt_of_ok hrun).2
  · rw [expandInvoked_of_ok (invocation_of_ok hname hargs)]
    exact (Transform.expandAt_of_ok hrun).2

/-- The tokens `struct S(u8);`. -/
def wrapperTokens : List Token := [word "struct", word "S", parens [word "u8"]] ++ operator ";"

/-- The item that these tokens are. -/
def wrapperItem : Item :=
  .struct ⟨[], .inherited, .callSite, .new "S", .empty⟩
    (.unnamed .callSite [⟨[], .inherited, none, .path (.mk none [.mk (.new "u8") .none])⟩] false)

/-- The expression `x`. -/
def nameExpr : Expr := .path [] (.mk none [.mk (.new "x") .none])

theorem wrapper_parse : Site.parse .member wrapperTokens = .ok (.item wrapperItem) := by cbv

theorem noArguments_parse : Arguments.parse [] = .ok [] := by cbv

theorem nameArgument_parse : Arguments.parse [word "x"] = .ok [⟨none, nameExpr⟩] := by cbv

/-- A copying method goes behind its struct, and a pair stands for the invocation that asked for
it. -/
theorem expansion_places_copy_and_pair :
    Placed .copyable (.item wrapperItem)
        (.declarations [(CopyMethod.ofOutline wrapperItem.outline).method.tokens])
        (expandAttached true "copyable" [] wrapperTokens).tokens ∧
      Placed .stringify .invocation (.expression (Transform.pairTokens nameExpr))
        (expandInvoked true "stringify" [word "x"]).tokens := by
  constructor
  · have hcopy := expansion_places_addition true "copyable" .copyable []
      (.just (.declarations [(CopyMethod.ofOutline wrapperItem.outline).method.tokens])) rfl
    exact hcopy.1 [] wrapperTokens _ noArguments_parse wrapper_parse rfl
  · have hpair := expansion_places_addition true "stringify" .stringify [⟨none, nameExpr⟩]
      (.just (.expression (Transform.pairTokens nameExpr))) rfl
    exact hpair.2 [word "x"] nameArgument_parse rfl

end Graft
