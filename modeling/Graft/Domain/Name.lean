import Graft.Domain.Direction
import Graft.Domain.Joining
import Graft.Domain.Mapping
import Graft.Domain.Punycode

/-!
# Domain names

A domain name is a sequence of labels divided by full stops. Reading one replaces its characters,
composes the text, decodes labels that are in their ASCII spelling, and checks every label.

* `Domain.labels?`: the labels of a name; nothing if it is no name.
* `Domain.toAscii?`: the name with every label in its ASCII spelling.
-/

namespace Graft.Domain

/-- ASCII characters that no name may have: controls, the space, the delete character, and those
that mean something in an address. -/
def isForbidden (c : Char) : Bool :=
  c.toNat ≤ 0x20 || c.toNat == 0x7f || "%#/:<>?@[\\]^|".contains c

/-- Whether a character is one of ASCII. -/
def isAscii (c : Char) : Bool := c.toNat < 0x80

/-- What the ASCII spelling of a label begins with. -/
def asciiMark : List Char := "xn--".toList

/-- The longest ASCII spelling that is decoded, without its mark. -/
def longestSpelling : Nat := 2000

/-- The longest label that has an ASCII spelling. -/
def longestLabel : Nat := 1000

/-- Whether a label may be part of a name. -/
def isLabel (label : List Char) : Bool :=
  !label.any isForbidden && !label.head?.any marks.contains && joinersFit [] label &&
    (label.all isAscii || decide (label.length ≤ longestLabel))

/-- Whether a label that was decoded could have been written as it is: it is composed, and nothing
in it is replaced. -/
def isSettled (label : List Char) : Bool :=
  label.all (fun c => allowed.contains c && c != '.') && Composed.compose label == label &&
    !asciiMark.isPrefixOf label

/-- A label decoded from its ASCII spelling. A spelling that ends with a hyphen has nothing to
decode. -/
def decodeLabel? (spelling : List Char) : Option (List Char) :=
  if spelling.all isAscii && spelling.getLast? != some '-' && spelling.length ≤ longestSpelling &&
      !spelling.isEmpty then
    (Punycode.decode spelling).filter isSettled
  else none

/-- A label as it is meant. -/
def readLabel? (label : List Char) : Option (List Char) :=
  (if asciiMark.isPrefixOf label then decodeLabel? (label.drop asciiMark.length)
    else some label).filter isLabel

/-- The parts of a text between full stops. -/
def splitLabels (cs : List Char) : List (List Char) := cs.splitOn '.'

/-- The labels of a name. If one of them has characters from right to left, all have to follow the
rules of direction. -/
def labels? (cs : List Char) : Option (List (List Char)) := do
  let replaced ← replaceAll? cs
  let labels ← (splitLabels (Composed.compose replaced)).mapM readLabel?
  if labels.any hasRight && !labels.all followsDirection then none else some labels

/-- A label in its ASCII spelling. -/
def asciiLabel (label : List Char) : List Char :=
  if label.all isAscii then label else asciiMark ++ Punycode.encode label

/-- A name with every label in its ASCII spelling. -/
def toAscii? (cs : List Char) : Option (List Char) :=
  (labels? cs).map fun labels => ['.'].intercalate (labels.map asciiLabel)

end Graft.Domain
