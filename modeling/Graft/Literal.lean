import Graft.Text.Quoted
import Graft.Text.Identifier

/-!
# Literals

What a literal token spells. A number is kept as its decimal digits, without marks, base and
suffix, so that it can be of any size.

* `Lit.read?`: the value of a literal token, if its form is known.
* `Lit.content?`: the characters that a literal contributes to a concatenation.
-/

namespace Graft

/-- The value of a literal. -/
inductive Lit where
  | str (value : String)
  | bytes
  | byte
  | char (value : Char)
  | int (digits suffix : String)
  | float (digits suffix : String)
  | bool (value : Bool)
deriving DecidableEq, Repr, Inhabited

namespace Lit

/-- Whether a suffix is empty or an identifier. -/
def isSuffix : List Char → Bool
  | [] => true
  | c :: rest => isIdentStart c && rest.all isIdentContinue

/-- Whether the characters after an `e` make it the mark of an exponent: a sign, or a digit with
nothing but marks, digits and perhaps a suffix around it. -/
def isExponent (digit : Bool) : List Char → Bool
  | [] => digit
  | c :: rest =>
    if c == '_' then isExponent digit rest
    else if c == '+' || c == '-' then true
    else if c.isDigit then isExponent true rest
    else digit && isSuffix (c :: rest)

/-- The value and the suffix of a whole number to a base; `none` if it is not one. `seen` tells
whether there was a digit. -/
def wholeNumber (base : Nat) (seen : Bool) (value : Nat) : List Char → Option (Nat × List Char)
  | [] => if seen then some (value, []) else none
  | c :: rest =>
    if c == '_' then wholeNumber base seen value rest
    else if base == 10 && c == '.' then none
    else if base == 10 && (c == 'e' || c == 'E') then
      if isExponent false rest || !seen then none else suffixed (c :: rest)
    else
      match hexValue? c with
      | some d =>
        if c.isDigit || base > 10 then
          if d < base then wholeNumber base true (value * base + d) rest else none
        else suffixed (c :: rest)
      | none => suffixed (c :: rest)
where
  /-- The number ends here, with this suffix. -/
  suffixed (suffix : List Char) : Option (Nat × List Char) :=
    if seen && isSuffix suffix then some (value, suffix) else none

/-- A whole number with its base. -/
def int? (cs : List Char) : Option Lit :=
  let found :=
    match cs with
    | '0' :: 'x' :: rest => wholeNumber 16 false 0 rest
    | '0' :: 'o' :: rest => wholeNumber 8 false 0 rest
    | '0' :: 'b' :: rest => wholeNumber 2 false 0 rest
    | c :: _ => if c.isDigit then wholeNumber 10 false 0 cs else none
    | [] => none
  found.map fun (value, suffix) => .int (toString value) (String.ofList suffix)

/-- What the digits of a fractional number have gone through. -/
structure FloatProgress where
  point : Bool := false
  mark : Bool := false
  sign : Bool := false
  exponent : Bool := false

/-- Whether the first character that is not an underscore starts an exponent. -/
def startsExponent (cs : List Char) : Bool :=
  match cs.dropWhile (· == '_') with
  | c :: _ => c == '-' || c == '+' || c.isDigit
  | [] => false

/-- The digits of a fractional number, and its suffix. Underscores and a plus sign vanish and the
exponent is marked by `e`; everything else is kept as it is spelled. -/
def fraction (p : FloatProgress) : List Char → Option (List Char × List Char)
  | [] => done []
  | c :: rest =>
    if c == '_' then fraction p rest
    else if c.isDigit then
      keep c (fraction { p with exponent := p.exponent || p.mark } rest)
    else if c == '.' then
      if p.mark || p.point then none else keep c (fraction { p with point := true } rest)
    else if c == 'e' || c == 'E' then
      if !startsExponent rest then done (c :: rest)
      else if p.mark then if p.exponent then done (c :: rest) else none
      else keep 'e' (fraction { p with mark := true } rest)
    else if c == '-' || c == '+' then
      if p.sign || p.exponent || !p.mark then none
      else if c == '-' then keep c (fraction { p with sign := true } rest)
      else fraction { p with sign := true } rest
    else done (c :: rest)
where
  /-- Puts a character in front of the digits. -/
  keep (c : Char) (r : Option (List Char × List Char)) : Option (List Char × List Char) :=
    r.map fun (digits, suffix) => (c :: digits, suffix)
  /-- The number ends here, with this suffix. -/
  done (suffix : List Char) : Option (List Char × List Char) :=
    if (p.mark && !p.exponent) || !isSuffix suffix then none else some ([], suffix)

/-- A fractional number. -/
def float? (cs : List Char) : Option Lit :=
  match cs with
  | c :: _ =>
    if c.isDigit then
      (fraction {} cs).map fun (digits, suffix) =>
      .float (String.ofList digits) (String.ofList suffix)
    else none
  | [] => none

/-- A number. What can be read as a whole number is one, whatever its suffix says. -/
def number? (cs : List Char) : Option Lit := (int? cs).orElse fun _ => float? cs

/-- The characters between the quotes of a raw text, from its `#`s on. -/
def rawValue (cs : List Char) : List Char :=
  let inner := cs.dropWhile (· == '#')
  ((inner.drop 1).reverse.dropWhile (· != '"')).drop 1 |>.reverse

/-- The value of a literal token; `none` for a form that has none, such as a text for C. -/
def read? (text : String) : Option Lit :=
  match text.toList with
  | '"' :: rest => some (.str (String.ofList (Quoted.decode .text rest)))
  | 'r' :: rest => some (.str (String.ofList (rawValue rest)))
  | 'b' :: '\'' :: _ => some .byte
  | 'b' :: '"' :: _ => some .bytes
  | 'b' :: 'r' :: _ => some .bytes
  | '\'' :: '\\' :: rest => (Quoted.decode .escape rest).head?.map .char
  | '\'' :: c :: _ => some (.char c)
  | c :: rest => if c.isDigit then number? (c :: rest) else none
  | [] => none

/-- The characters a literal contributes to a concatenation; bytes contribute none. -/
def content? : Lit → Option String
  | .str value => some value
  | .char c => some (String.singleton c)
  | .int digits _ => some digits
  | .float digits _ => some digits
  | .bool b => some (if b then "true" else "false")
  | .bytes => none
  | .byte => none

end Lit

end Graft
