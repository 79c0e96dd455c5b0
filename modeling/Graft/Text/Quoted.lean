import Graft.Text.Printable
import Graft.Text.Blank

/-!
# Quoted text

A text between double quotes, in which some characters are written as escapes.

* `Quoted.encode` writes a text: quotes, backslashes, line ends and tabs have short escapes, a
  character that is not printable is written by its number, and a NUL is `\0` unless a digit
  follows that would seem to belong to it.
* `Quoted.decode` reads the characters after the opening quote up to the closing one.
* `Quoted.debug` is the form shown in dumps, which writes every NUL as `\0`.
-/

namespace Graft.Quoted

/-! ## 1. Writing -/

/-- A character by its number, in lower-case hexadecimal between braces. -/
def byNumber (c : Char) : List Char :=
  '\\' :: 'u' :: '\x7b' :: (Nat.toDigits 16 c.toNat ++ ['\x7d'])

/-- How a character other than NUL is written between double quotes. -/
def escape (c : Char) : List Char :=
  match c with
  | '\t' => ['\\', 't']
  | '\r' => ['\\', 'r']
  | '\n' => ['\\', 'n']
  | '"' => ['\\', '"']
  | '\\' => ['\\', '\\']
  | c => if isPrintable c then [c] else byNumber c

/-- Whether a digit follows that would seem to continue a NUL's escape. -/
def startsOctal : List Char → Bool
  | c :: _ => '0' ≤ c && c ≤ '7'
  | [] => false

/-- The characters of a text as they stand between double quotes. -/
def encode : List Char → List Char
  | [] => []
  | c :: rest =>
    (if c.toNat == 0 then if startsOctal rest then "\\x00".toList else "\\0".toList
      else escape c) ++ encode rest

/-- A text as a string literal. -/
def literal (s : String) : String :=
  String.ofList ('"' :: (encode s.toList ++ ['"']))

/-- A text as it is shown in dumps. -/
def debug (s : String) : String :=
  String.ofList
    ('"' :: (s.toList.flatMap (fun c => if c.toNat == 0 then "\\0".toList else escape c) ++ ['"']))

/-! ## 2. Reading -/

/-- What a reader of quoted text is in the middle of. -/
inductive Mode where
  | text
  | escape
  | byteHigh
  | byteLow (high : Nat)
  | numberOpen
  | number (value : Nat)
  | afterReturn
  | continuation

/-- The text whose quoted form is read, up to the closing quote. A line end is a line feed, and a
backslash before a line end drops the line end and the blanks after it. -/
def decode : Mode → List Char → List Char
  | _, [] => []
  | .text, c :: rest =>
    if c == '"' then []
    else if c == '\\' then decode .escape rest
    else if c == '\r' then '\n' :: decode .afterReturn rest
    else c :: decode .text rest
  | .afterReturn, c :: rest =>
    if c == '\n' then decode .text rest else c :: decode .text rest
  | .escape, c :: rest =>
    match c with
    | 'x' => decode .byteHigh rest
    | 'u' => decode .numberOpen rest
    | 'n' => '\n' :: decode .text rest
    | 'r' => '\r' :: decode .text rest
    | 't' => '\t' :: decode .text rest
    | '0' => Char.ofNat 0 :: decode .text rest
    | '\n' => decode .continuation rest
    | '\r' => decode .continuation rest
    | c => c :: decode .text rest
  | .byteHigh, c :: rest => decode (.byteLow ((hexValue? c).getD 0)) rest
  | .byteLow high, c :: rest =>
    Char.ofNat (high * 16 + (hexValue? c).getD 0) :: decode .text rest
  | .numberOpen, _ :: rest => decode (.number 0) rest
  | .number value, c :: rest =>
    if c == '\x7d' then Char.ofNat value :: decode .text rest
    else
      match hexValue? c with
      | some d => decode (.number (value * 16 + d)) rest
      | none => decode (.number value) rest
  | .continuation, c :: rest =>
    if isBlank c then decode .continuation rest
    else if c == '"' then []
    else if c == '\\' then decode .escape rest
    else c :: decode .text rest

end Graft.Quoted
