import Graft.Proofs.Method.Reading
import Graft.Proofs.Token.QuotedText
import Graft.Proofs.Tree.TypeShapes
import Graft.Transform.Accessors
import Mathlib

/-!
# The code of accessors

What a generated getter and setter do is told from their tokens: which store they speak of, under
which key, what is answered while nothing is held, how the value is read otherwise, and what is
written.

* `ReaderCode.read?`: the expression that reads a value. `ReaderCode.read?_readTokens`: it is read
  as it was written.
* `GetterCode.read?`, `SetterCode.read?`: a getter and a setter, with the type of the values.
* **`GetterCode.read?_getter`**, **`SetterCode.read?_setter`**: both are read as they were written.
-/

namespace Graft

/-! ## 1. Reading a value -/

/-- An expression that reads a value from a store. Where there may be none, another expression
stands in for it. -/
inductive ReaderCode where
  | bool
  | integer
  | float
  | string (fallback : List Token)
  | typed (ty fallback : List Token)

/-- What a text is made from. -/
def madeFrom? (ts : List Token) : Option (List Token) :=
  match Token.behind? (stringType ++ code ":: from") ts with
  | some [.group .paren literal _] => some literal
  | _ => none

namespace ReaderCode

/-- A reader that needs no more than a key. -/
def plain? (method : String) : Option ReaderCode :=
  if method == "bool" then some .bool
  else if method == "integer" then some .integer
  else if method == "float" then some .float
  else none

/-- A reader of texts, from the closure that makes one where there is none. -/
def orElse? (ts : List Token) : Option ReaderCode :=
  match Token.behind? (Graft.code ". unwrap_or_else") ts with
  | some [.group .paren closure _] =>
    ((Token.behind? (operator "||") closure).bind madeFrom?).map .string
  | _ => none

/-- A conversion from what is held, from its type on. -/
def converted? (ts : List Token) : Option ReaderCode :=
  match ts.getLast? with
  | some (.group .paren fallback _) =>
    (Token.before? (operator ">" ++ [parens [word "key"]] ++ Graft.code ". unwrap_or")
      ts.dropLast).map fun ty => .typed ty fallback
  | _ => none

/-- The expression, where `store` and `key` are in scope. -/
def read? (ts : List Token) : Option ReaderCode :=
  match Token.behind? (Graft.code "store .") ts with
  | some (.ident method :: rest) =>
    if method.text == "get" then (Token.behind? (Graft.code ":: <") rest).bind converted?
    else
      (Token.behind? [parens [word "key"]] rest).bind fun rest =>
        if rest.isEmpty then plain? method.text
        else if method.text == "string" then orElse? rest
        else none
  | _ => none

end ReaderCode

/-- The expression that is written for a reader and a default. -/
def Reader.code (default : Expr) : Reader → ReaderCode
  | .bool => .bool
  | .integer => .integer
  | .float => .float
  | .string => .string default.tokens
  | .typed ty => .typed ty default.tokens

theorem madeFrom?_text (literal : List Token) :
    madeFrom? (stringType ++ code ":: from" ++ [parens literal]) = some literal := by
  rw [madeFrom?, Token.behind?_append]
  rfl

namespace ReaderCode

theorem orElse?_closure (literal : List Token) :
    orElse? (Graft.code ". unwrap_or_else" ++
      [parens (operator "||" ++ (stringType ++ Graft.code ":: from" ++ [parens literal]))]) =
      some (.string literal) := by
  have made := madeFrom?_text literal
  rw [orElse?, Token.behind?_append]
  dsimp only [parens] at made ⊢
  rw [Token.behind?_append, Option.bind_some, made, Option.map_some]

theorem converted?_typed (ty fallback : List Token) :
    converted? (ty ++ (operator ">" ++ [parens [word "key"]] ++ Graft.code ". unwrap_or") ++
      [parens fallback]) = some (.typed ty fallback) := by
  unfold converted?
  rw [List.getLast?_concat, List.dropLast_concat]
  dsimp only [parens]
  rw [Token.before?_append, Option.map_some]

/-- A method of the store is called with the key. -/
theorem read?_call (method : String) (other : method ≠ "get") (rest : List Token) :
    read? (Graft.code "store ." ++ ([word method, parens [word "key"]] ++ rest)) =
      if rest.isEmpty then plain? method
      else if method == "string" then orElse? rest
      else none := by
  have called : Token.behind? [parens [word "key"]] ([parens [word "key"]] ++ rest) = some rest :=
    Token.behind?_append [parens [word "key"]] rest
  unfold read?
  rw [Token.behind?_append]
  dsimp only [List.cons_append, List.nil_append, word, Ident.new] at called ⊢
  rw [if_neg (by simpa using other), called, Option.bind_some]

theorem getPath_eq : Graft.code "store . get :: <" =
    Graft.code "store ." ++ ([word "get"] ++ Graft.code ":: <") := by
  cbv

/-- A value is converted from what the store holds. -/
theorem read?_get (ty fallback : List Token) :
    read? (Graft.code "store ." ++ ([word "get"] ++ (Graft.code ":: <" ++
      (ty ++ (operator ">" ++ [parens [word "key"]] ++ Graft.code ". unwrap_or") ++
        [parens fallback])))) = some (.typed ty fallback) := by
  unfold read?
  rw [Token.behind?_append]
  dsimp only [List.cons_append, List.nil_append, word, Ident.new]
  rw [if_pos (beq_self_eq_true _), Token.behind?_append, Option.bind_some]
  exact converted?_typed ty fallback

/-- **The expression is read as it was written.** -/
theorem read?_readTokens (a : Access) :
    read? a.readTokens = some (a.reader.code a.default) := by
  obtain ⟨ty, default, reader⟩ := a
  cases reader with
  | bool => exact read?_call "bool" (by decide) []
  | integer => exact read?_call "integer" (by decide) []
  | float => exact read?_call "float" (by decide) []
  | string =>
    rw [Access.readTokens]
    dsimp only
    rw [List.append_assoc, List.append_assoc, read?_call "string" (by decide), Access.defaultTokens,
      if_neg (by simp), if_pos (beq_self_eq_true _)]
    dsimp only
    rw [orElse?_closure, Reader.code]
  | typed conversion =>
    have get := read?_get conversion default.tokens
    rw [Access.readTokens]
    dsimp only
    rw [getPath_eq]
    simp only [List.append_assoc] at get ⊢
    exact get

end ReaderCode

/-! ## 2. Getters and setters -/

/-- What a getter says: the type and the place of the values, what is answered while nothing is held
there, and how the value is read otherwise. -/
structure GetterCode where
  ty : List Token
  store : List Token
  key : String
  absent : List Token
  reader : ReaderCode

/-- What a setter says: the type and the place of the values. -/
structure SetterCode where
  ty : List Token
  store : List Token
  key : String

/-- The key that a literal spells. -/
def keyText? : List Token → Option String
  | [.literal text _] =>
    match Lit.read? text with
    | some (.str key) => some key
    | _ => none
  | _ => none

/-- The expression that a body calls `store`, and the rest of the body. The methods of stores have
to be in scope. -/
def storeNamed? (body : List Token) : Option (List Token × List Token) :=
  (Token.cutAt? ';' body).bind fun (use, body) =>
    if Token.sameList use (code "use :: playtomic :: KeyValueStore as _") then
      (Token.cutAt? ';' body).bind fun (store, body) =>
        (Token.behind? (code "let store = &") store).map fun store => (store, body)
    else none

/-- The text that a body calls `key`, and the rest of the body. -/
def keyNamed? (body : List Token) : Option (String × List Token) :=
  (Token.cutAt? ';' body).bind fun (key, body) =>
    ((Token.behind? (code "let key =") key).bind keyText?).map fun key => (key, body)

/-- What is returned if nothing is held, and the rest of the body. -/
def returned? (body : List Token) : Option (List Token × List Token) :=
  match Token.behind? (code "if store . value" ++ [parens [word "key"]] ++ code ". is_none" ++
      [parens []]) body with
  | some (.group .brace inner _ :: body) =>
    ((Token.behind? [word "return"] inner).bind (Token.before? (operator ";"))).map
      fun answer => (answer, body)
  | _ => none

/-- The default that an answer is made from: a text is made from its literal. -/
def ReaderCode.default? (answer : List Token) : ReaderCode → Option (List Token)
  | .string _ => madeFrom? answer
  | _ => some answer

/-- The type of the parameter `new_value`, which is the last one. -/
def takes? (inputs : List Token) : Option (List Token) :=
  (Token.behind? (code "new_value :") inputs).or
    ((Token.cutAt? ',' inputs).bind fun (_, last) => Token.behind? (code "new_value :") last)

/-- A getter, from its tokens. -/
def GetterCode.read? (ts : List Token) : Option GetterCode := do
  let method ← WrittenMethod.read? ts
  let ty ← Token.behind? (operator "->") method.clauses
  let (store, body) ← storeNamed? method.body
  let (key, body) ← keyNamed? body
  let (answer, body) ← returned? body
  let reader ← ReaderCode.read? body
  let absent ← reader.default? answer
  return ⟨ty, store, key, absent, reader⟩

/-- A setter, from its tokens. -/
def SetterCode.read? (ts : List Token) : Option SetterCode := do
  let method ← WrittenMethod.read? ts
  let ty ← takes? method.inputs
  let (store, body) ← storeNamed? method.body
  let call ← Token.before? (operator ";") body
  match Token.behind? (code "store . set") call with
  | some [.group .paren args _] =>
    let key ← (Token.behind? (code "new_value ,") args).bind keyText?
    return ⟨ty, store, key⟩
  | _ => none

theorem keyText?_quotedToken (key : String) : keyText? [quotedToken key] = some key := by
  unfold keyText? quotedToken
  dsimp only
  rw [Lit.read?_literal]

theorem useStore_eq : Accessors.useStore =
    code "use :: playtomic :: KeyValueStore as _" ++ [.punct ';' .alone .callSite] := by
  cbv

/-- What is written out has no `;` in the open, as a list that can be computed. -/
theorem closed_of_any {ts : List Token} (h : ts.any (Token.isMark ';') = false) :
    ∀ t ∈ ts, Token.isMark ';' t = false :=
  fun t mem => Bool.eq_false_iff.mpr (List.any_eq_false.mp h t mem)

theorem storeNamed?_written {a : Accessors} (closed : ∀ t ∈ a.store, Token.isMark ';' t = false)
    (body : List Token) :
    storeNamed? (Accessors.useStore ++ a.letStore ++ body) = some (a.store, body) := by
  have use := closed_of_any
    (show (code "use :: playtomic :: KeyValueStore as _").any (Token.isMark ';') = false by cbv)
  have bind : ∀ t ∈ code "let store = &" ++ a.store, Token.isMark ';' t = false :=
    List.forall_mem_append.mpr ⟨closed_of_any (by cbv), closed⟩
  have written : Accessors.useStore ++ a.letStore ++ body =
      code "use :: playtomic :: KeyValueStore as _" ++ .punct ';' .alone .callSite ::
        (code "let store = &" ++ a.store ++ .punct ';' .alone .callSite :: body) := by
    rw [useStore_eq, Accessors.letStore, Token.semicolon_eq]
    simp only [List.append_assoc, List.cons_append, List.nil_append]
  rw [storeNamed?, written, Token.cutAt?_append use, Option.bind_some]
  dsimp only
  rw [if_pos (Token.sameList_self _), Token.cutAt?_append bind, Option.bind_some]
  dsimp only
  rw [Token.behind?_append, Option.map_some]

theorem keyNamed?_written (key : String) (body : List Token) :
    keyNamed? (code "let key =" ++ [quotedToken key] ++ operator ";" ++ body) =
      some (key, body) := by
  have bind : ∀ t ∈ code "let key =" ++ [quotedToken key], Token.isMark ';' t = false :=
    List.forall_mem_append.mpr ⟨closed_of_any (by cbv), by simp [quotedToken, Token.isMark]⟩
  have written : code "let key =" ++ [quotedToken key] ++ operator ";" ++ body =
      code "let key =" ++ [quotedToken key] ++ .punct ';' .alone .callSite :: body := by
    rw [List.append_assoc, Token.semicolon_eq]
    rfl
  rw [keyNamed?, written, Token.cutAt?_append bind, Option.bind_some]
  dsimp only
  rw [Token.behind?_append, Option.bind_some, keyText?_quotedToken, Option.map_some]

theorem returned?_written (answer body : List Token) :
    returned? (code "if store . value" ++ [parens [word "key"]] ++ code ". is_none" ++
      [parens [], braces ([word "return"] ++ answer ++ operator ";")] ++ body) =
      some (answer, body) := by
  have written : code "if store . value" ++ [parens [word "key"]] ++ code ". is_none" ++
      [parens [], braces ([word "return"] ++ answer ++ operator ";")] ++ body =
      (code "if store . value" ++ [parens [word "key"]] ++ code ". is_none" ++ [parens []]) ++
        (braces ([word "return"] ++ (answer ++ operator ";")) :: body) := by
    simp only [List.append_assoc, List.cons_append, List.nil_append]
  rw [returned?, written, Token.behind?_append]
  dsimp only [braces]
  rw [Token.behind?_append, Option.bind_some, Token.before?_append, Option.map_some]

/-- The default is the one that was given. -/
theorem Access.default?_defaultTokens (a : Access) :
    (a.reader.code a.default).default? a.defaultTokens = some a.default.tokens := by
  obtain ⟨ty, default, reader⟩ := a
  cases reader with
  | bool | integer | float | typed => rfl
  | string => exact madeFrom?_text default.tokens

/-- **A getter is read as it was written.** -/
theorem GetterCode.read?_getter (a : Accessors)
    (closed : ∀ t ∈ a.store, Token.isMark ';' t = false) :
    GetterCode.read? a.getter.tokens = some ⟨a.ty, a.store, a.key, a.access.default.tokens,
      a.access.reader.code a.access.default⟩ := by
  have clauses : a.getter.clauses = operator "->" ++ a.ty := by
    simp [Method.clauses, Accessors.getter, Method.plain, Generics.empty, Generics.clauseParts,
      Part.tokensOf]
  have body : a.getter.body = Accessors.useStore ++ a.letStore ++ (code "let key =" ++
      [quotedToken a.key] ++ operator ";" ++ (code "if store . value" ++ [parens [word "key"]] ++
        code ". is_none" ++
        [parens [], braces ([word "return"] ++ a.access.defaultTokens ++ operator ";")] ++
        a.access.readTokens)) := by
    show a.getterBody = _
    rw [Accessors.getterBody]
    simp only [List.append_assoc]
  rw [GetterCode.read?, WrittenMethod.read?_tokens rfl]
  simp only [Option.bind_eq_bind, Option.bind_some, clauses, body, Token.behind?_append,
    storeNamed?_written closed, keyNamed?_written, returned?_written, ReaderCode.read?_readTokens,
    Access.default?_defaultTokens]
  rfl

/-- A receiver is its attributes, and then `self` with what belongs to it. -/
theorem Receiver.tokens_split (r : Receiver) : ∃ own, Part.tokensOf r.parts =
    attributeTokens (r.attrs.filter (!·.inner)) ++ own ∧
      (∀ t ∈ own, Token.isMark ',' t = false) ∧
      ∃ t rest, own = t :: rest ∧ Token.isWord "new_value" t = false := by
  rw [parts, List.append_assoc, List.append_assoc, Part.tokensOf_append, outerParts,
    Part.tokensOf_attrs]
  refine ⟨_, rfl, ?_⟩
  obtain ⟨attrs, reference, mutable, self⟩ := r
  rcases reference with _ | ⟨amp, _ | lifetime⟩ <;> cases mutable <;>
    simp [Part.ofTokens, Lifetime.tokens, Part.wordAt, Graft.wordAt, Part.word, Part.tokensOf,
      Part.tokens, Token.isMark, Token.isWord]

/-- A receiver has no comma in the open, and does not begin like the parameter of a setter. -/
theorem Receiver.tokens_told (r : Receiver) :
    (∀ t ∈ Part.tokensOf r.parts, Token.isMark ',' t = false) ∧
      ∃ t rest, Part.tokensOf r.parts = t :: rest ∧ Token.isWord "new_value" t = false := by
  obtain ⟨own, written, closed, t, rest, rfl, head⟩ := r.tokens_split
  rw [written]
  refine ⟨List.forall_mem_append.mpr ⟨fun t mem => ?_, closed⟩, ?_⟩
  · obtain ⟨s, rfl⟩ | ⟨s, rfl⟩ | ⟨inner, s, rfl⟩ := mem_attributeTokens mem <;> rfl
  · cases attrs : attributeTokens (r.attrs.filter (!·.inner)) with
    | nil => exact ⟨t, rest, rfl, head⟩
    | cons u more =>
      refine ⟨u, more ++ t :: rest, rfl, ?_⟩
      exact attributeTokens_isWord _ _ u (attrs ▸ List.mem_cons_self)

theorem newValue_eq : code "new_value :" = word "new_value" :: operator ":" := by
  cbv

/-- The type that a setter takes is the one that it is written with, behind any receiver. -/
theorem takes?_written (s : Signature) (ty : List Token) :
    takes? (commaSeparated (s.receiver?.toList ++ [[word "new_value"] ++ operator ":" ++ ty])) =
      some ty := by
  have param : [word "new_value"] ++ operator ":" ++ ty = code "new_value :" ++ ty := by
    rw [newValue_eq]
    rfl
  have receiver : s.receiver? = none ∨
      ∃ r : Receiver, s.receiver? = some (Part.tokensOf r.parts) := by
    unfold Signature.receiver?
    split
    · exact .inr ⟨_, rfl⟩
    · exact .inl rfl
  rw [param, takes?]
  rcases receiver with absent | ⟨r, there⟩
  · rw [absent]
    show (Token.behind? (code "new_value :") (code "new_value :" ++ ty)).or _ = _
    rw [Token.behind?_append, Option.some_or]
  · obtain ⟨closed, t, rest, written, head⟩ := r.tokens_told
    have inputs : commaSeparated ([Part.tokensOf r.parts] ++ [code "new_value :" ++ ty]) =
        Part.tokensOf r.parts ++ .punct ',' .alone .callSite :: (code "new_value :" ++ ty) := by
      show Part.tokensOf r.parts ++ operator "," ++ (code "new_value :" ++ ty) = _
      rw [List.append_assoc]
      rfl
    have other : Token.behind? (code "new_value :") (Part.tokensOf r.parts ++
        .punct ',' .alone .callSite :: (code "new_value :" ++ ty)) = none := by
      rw [written, newValue_eq]
      exact Token.behind?_word_eq_none head
    rw [there, Option.toList_some, inputs, other, Token.cutAt?_append closed, Option.none_or,
      Option.bind_some]
    exact Token.behind?_append _ ty

/-- **A setter is read as it was written.** -/
theorem SetterCode.read?_setter (a : Accessors)
    (closed : ∀ t ∈ a.store, Token.isMark ';' t = false) :
    SetterCode.read? a.setter.tokens = some ⟨a.ty, a.store, a.key⟩ := by
  have takes : takes? (commaSeparated a.setter.inputs) = some a.ty := takes?_written a.decl.sig a.ty
  have body : a.setter.body = Accessors.useStore ++ a.letStore ++ (code "store . set" ++
      [parens (code "new_value ," ++ [quotedToken a.key])] ++ operator ";") := by
    show a.setterBody = _
    rw [Accessors.setterBody]
    simp only [List.append_assoc]
  rw [SetterCode.read?, WrittenMethod.read?_tokens rfl]
  simp only [Option.bind_eq_bind, Option.bind_some, takes, body, storeNamed?_written closed,
    Token.before?_append, Token.behind?_append, parens, keyText?_quotedToken]
  rfl

end Graft
