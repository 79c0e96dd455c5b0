import Graft.Proofs.Expansion.Placement
import Graft.Proofs.Template.StaticText
import Graft.Proofs.Token.Visible
import Mathlib

/-!
# The attribute of every field

A text that is the inside of an attribute becomes an attribute of every field, and nothing else of
the type is touched.

* `SpellsAttribute`: the texts that are the inside of an attribute, told by the path and by what
  stands behind it. `attributeOfText_eq_ok` says that no other text is taken for one.
* `Transform.addFieldAttributes_splice`: at any item, the addition is placed without a failure, and
  what it comes to is the item with the attribute behind those of each field.
* `field_attributes_exact` puts these together, with the general statement about the fields that are
  listed by their numbers.
-/

namespace Graft

/-- A text that spells the inside of an attribute: a path, and behind it nothing, one group, or a
`=` and any tokens. -/
def SpellsAttribute (text : String) (p : NamePath) (rest : List Token) : Prop :=
  ∃ ts, Token.lex? "" text = some ts ∧ AttributeSpelled ts p rest

/-- The attribute of a path, with what stands behind the path, as it is written for a field. -/
def Attribute.ofPath (p : NamePath) (rest : List Token) : Attribute :=
  ⟨.callSite, false, .callSite, p, rest⟩

/-- **A text is taken for the inside of an attribute exactly if it spells one.** -/
theorem attributeOfText_eq_ok {text : String} {body : List Token} :
    attributeOfText text = .ok body ↔
      ∃ p rest, SpellsAttribute text p rest ∧ body = p.tokens ++ rest := by
  unfold attributeOfText SpellsAttribute
  cases hlex : Token.lex? "" text with
  | none =>
    constructor
    · rintro ⟨⟩
    · rintro ⟨p, rest, ⟨ts, hts, -⟩, -⟩
      nomatch hts
  | some ts =>
    have hparse : Graft.parse (fun _ => attributeBody) ts = .ok body ↔
        ∃ p rest, AttributeSpelled ts p rest ∧ body = p.tokens ++ rest :=
      parse_attributeBody_iff (Token.lex?_visible hlex)
    constructor
    · intro h
      dsimp only at h
      split at h
      · rename_i found hfound
        injection h with h
        subst h
        obtain ⟨p, rest, spelled, hbody⟩ := hparse.mp hfound
        exact ⟨p, rest, ⟨ts, rfl, spelled⟩, hbody⟩
      · nomatch h
    · rintro ⟨p, rest, ⟨us, hus, spelled⟩, hbody⟩
      injection hus with hus
      subst hus
      dsimp only
      rw [hparse.mpr ⟨p, rest, spelled, hbody⟩]

/-- The attribute that a text spells is read from between its brackets. -/
theorem SpellsAttribute.ofBody {text : String} {p : NamePath} {rest : List Token}
    (h : SpellsAttribute text p rest) :
    Attribute.ofBody (p.tokens ++ rest) = .ok (.ofPath p rest) := by
  obtain ⟨ts, -, spelled⟩ := h
  exact spelled.ofBody

theorem Field.withAttributeIn_nil (a : Attribute) (k : Nat) (f : Field) :
    Field.withAttributeIn [] a k f = f := by
  rw [Field.withAttributeIn, if_neg List.not_mem_nil]

theorem Item.mapFieldsIdx_id (i : Item) : i.mapFieldsIdx (fun _ f => f) = i := by
  have hid : ∀ fields : List Field, fields.mapIdx (fun _ f => f) = fields := by
    intro fields
    exact List.ext_getElem (by simp) (by simp)
  cases i with
  | struct head fields => cases fields <;> simp only [Item.mapFieldsIdx, hid]
  | union head span fields trailing => simp only [Item.mapFieldsIdx, hid]
  | enum => rfl
  | function => rfl
  | other => rfl
  | verbatim => rfl

/-- A type of whose properties none is a stored field has no field. -/
theorem Item.mapFields_of_no_storedFields {i : Item}
    (h : Transform.storedFields i.outline = []) (a : Attribute) :
    i.mapFields (Field.withAttribute a) = i := by
  rw [← Item.mapFieldsIdx_storedFields, h]
  exact (congrArg i.mapFieldsIdx (funext₂ (Field.withAttributeIn_nil a))).trans i.mapFieldsIdx_id

theorem Item.mapFields_of_other {i : Item} (hstruct : i.outline.kind ≠ .struct)
    (hunion : i.outline.kind ≠ .union) (g : Field → Field) : i.mapFields g = i := by
  cases i with
  | struct => exact absurd rfl hstruct
  | union => exact absurd rfl hunion
  | enum => rfl
  | function => rfl
  | other => rfl
  | verbatim => rfl

namespace Transform

/-- **At any item the attribute is placed on every field**, and the placing does not fail. -/
theorem addFieldAttributes_splice {args : Arguments} {e : Expr} {text : String} {p : NamePath}
    {rest : List Token} (arg : args.single? = some e) (static : StaticForm e text)
    (spells : SpellsAttribute text p rest) (std : Bool) (i : Item) :
    ∃ addition, addFieldAttributes ⟨.item i, args, std⟩ = .ok (.just addition) ∧
      splice .memberAttribute (.item i) addition =
        .ok (i.mapFields (Field.withAttribute (.ofPath p rest))).tokens := by
  have htext : attributeOfText text = .ok (p.tokens ++ rest) :=
    attributeOfText_eq_ok.mpr ⟨p, rest, spells, rfl⟩
  by_cases hkind : (i.outline.kind == .struct || i.outline.kind == .union) = true
  · cases hfields : storedFields i.outline with
    | nil =>
      refine ⟨.nothing, ?_, ?_⟩
      · simp only [addFieldAttributes, Request.single, arg, bind, Except.bind,
          staticText_eq_ok.mpr static, htext, Site.item?, hkind, hfields]
        rfl
      · rw [Item.mapFields_of_no_storedFields hfields]
        rfl
    | cons f fs =>
      refine ⟨.fieldAttribute (p.tokens ++ rest) (f :: fs), ?_, ?_⟩
      · simp only [addFieldAttributes, Request.single, arg, bind, Except.bind,
          staticText_eq_ok.mpr static, htext, Site.item?, hkind, hfields]
        rfl
      · rw [← hfields]
        simp only [splice, withFieldAttributes_eq_mapFields spells.ofBody]
        rfl
  · obtain ⟨hstruct, hunion⟩ : i.outline.kind ≠ .struct ∧ i.outline.kind ≠ .union := by
      simpa using hkind
    refine ⟨.nothing, ?_, ?_⟩
    · simp only [addFieldAttributes, Request.single, arg, bind, Except.bind,
        staticText_eq_ok.mpr static, htext, Site.item?, hkind]
      rfl
    · rw [Item.mapFields_of_other hstruct hunion]
      rfl

end Transform

/-- **The attribute goes to every field and to nothing else, and nothing fails on the way.** Which
texts are taken for the inside of an attribute; what the attribute of such a text is, and the item
with it on every field; the fields that are listed by their numbers, in any order and with
repetitions or numbers of no field; and that no request at all comes to an attribute that cannot be
read. -/
theorem field_attributes_exact (text : String) :
    (∀ body, attributeOfText text = .ok body ↔
      ∃ p rest, SpellsAttribute text p rest ∧ body = p.tokens ++ rest) ∧
    (∀ p rest, SpellsAttribute text p rest →
      Attribute.ofBody (p.tokens ++ rest) = .ok (.ofPath p rest) ∧
      ∀ std args e i, args.single? = some e → StaticForm e text →
        Transform.wrapStoredProperties.expandAt ⟨.item i, args, std⟩ =
          ⟨(i.mapFields (Field.withAttribute (.ofPath p rest))).tokens, []⟩) ∧
    (∀ inside a chosen (i : Item), Attribute.ofBody inside = .ok a →
      i.withFieldAttributes inside chosen =
        .ok (i.mapFieldsIdx fun k f => if k ∈ chosen then f.withAttribute a else f)) ∧
    (∀ r, ∃ ts, splice .memberAttribute r.site (Transform.wrapStoredProperties.invoke r).1 =
      .ok ts) := by
  refine ⟨fun body => attributeOfText_eq_ok, fun p rest spells => ⟨spells.ofBody, ?_⟩,
    fun inside a chosen i ha => withFieldAttributes_eq_mapFieldsIdx ha chosen i,
    fun r => Transform.splice_invoke .wrapStoredProperties r⟩
  intro std args e i arg static
  obtain ⟨addition, hrun, hsplice⟩ :=
    Transform.addFieldAttributes_splice arg static spells std i
  exact Transform.expandAt_of_splice hrun hsplice

/-- The path of the attribute `serde(default)`, as it stands in that text. -/
def serdePath : NamePath := ⟨none, [⟨"serde", .range "" 0 5⟩]⟩

/-- What stands behind the path. -/
def serdeDefault : List Token :=
  [.group .paren [.ident ⟨"default", .range "" 6 13⟩] (.range "" 5 14)]

/-- The text between quotes as the only argument. -/
def serdeArgument : Arguments :=
  [⟨none, .lit [] (.literal "\"serde(default)\"" .callSite) (.str "serde(default)")⟩]

theorem serdeDefault_spelled : SpellsAttribute "serde(default)" serdePath serdeDefault := by
  have lexed : Token.lex? "" "serde(default)" =
      some ([.ident ⟨"serde", .range "" 0 5⟩] ++ serdeDefault) := rfl
  have path : serdePath.Spelled [.ident ⟨"serde", .range "" 0 5⟩] := .plain (.last (by cbv))
  exact ⟨_, lexed, .group path (by decide) _ _⟩

/-- The field of `struct S(u8);` gains the attribute, also if its number is listed twice beside one
of no field. -/
theorem serdeDefault_on_field :
    Transform.wrapStoredProperties.expandAt ⟨.item wrapperItem, serdeArgument, true⟩ =
        ⟨(wrapperItem.mapFields (Field.withAttribute (.ofPath serdePath serdeDefault))).tokens, []⟩ ∧
      wrapperItem.withFieldAttributes (serdePath.tokens ++ serdeDefault) [7, 0, 0] =
        .ok (wrapperItem.mapFields (Field.withAttribute (.ofPath serdePath serdeDefault))) := by
  obtain ⟨-, placed, listed, -⟩ := field_attributes_exact "serde(default)"
  obtain ⟨made, every⟩ := placed serdePath serdeDefault serdeDefault_spelled
  refine ⟨every true serdeArgument _ wrapperItem rfl (.literal _ _ _), ?_⟩
  rw [listed _ _ _ _ made]
  rfl

end Graft
