import Graft.Text.Hex

/-!
# Percent signs

In a URL a byte can be written as a percent sign and two hexadecimal digits.

* `Url.percentDecode?`: a text with such bytes read as characters.
* `Url.percentEncode`: a text with some characters written as such bytes.
-/

namespace Graft.Url

/-- The byte that two hexadecimal digits spell. -/
def hexByte? (high low : Char) : Option UInt8 :=
  (hexValue? high).bind fun h => (hexValue? low).map fun l => UInt8.ofNat (16 * h + l)

/-- The bytes of a text. A percent sign without two digits behind it stands for itself. -/
def bytes : List Char → List UInt8
  | '%' :: high :: low :: rest =>
    match hexByte? high low with
    | some b => b :: bytes rest
    | none => String.utf8EncodeChar '%' ++ bytes (high :: low :: rest)
  | c :: rest => String.utf8EncodeChar c ++ bytes rest
  | [] => []

/-- The text that the bytes spell, if they spell one. -/
def percentDecode? (cs : List Char) : Option (List Char) :=
  (String.fromUTF8? (bytes cs).toByteArray).map String.toList

/-- A character as bytes with percent signs. -/
def percentBytes (c : Char) : List Char :=
  (String.utf8EncodeChar c).flatMap fun b =>
    ['%', capitalHexDigit (b.toNat / 16), capitalHexDigit (b.toNat % 16)]

/-- A text with the characters of a set written as bytes. -/
def percentEncode (set : Char → Bool) (cs : List Char) : List Char :=
  cs.flatMap fun c => if set c then percentBytes c else [c]

/-! ## Sets of characters that are written as bytes -/

/-- Controls, and all beyond ASCII. -/
def inOpaque (c : Char) : Bool := c.toNat < 0x20 || 0x7e < c.toNat

/-- In a fragment. -/
def inFragment (c : Char) : Bool := inOpaque c || " \"<>`".contains c

/-- In a query. -/
def inQuery (c : Char) : Bool := inOpaque c || " \"#<>".contains c

/-- In the query of a scheme that names a network protocol. -/
def inSpecialQuery (c : Char) : Bool := inQuery c || c == '\''

/-- In a segment of a path. -/
def inSegment (c : Char) : Bool := inQuery c || "?^`\x7b\x7d".contains c

/-- In the name or the password of a user. -/
def inUser (c : Char) : Bool := inSegment c || "/:;=@[\\]|".contains c

end Graft.Url
