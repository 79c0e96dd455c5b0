import Graft.Text.CharTable

/-!
# Writing direction

Some scripts are written from right to left. In a domain name that uses one of them, each label has
to follow rules that keep its characters from being shown in the wrong order.

* `direction`: how a character behaves, the Unicode property `Bidi_Class`.
* `followsDirection`: the rules for a label.
-/

namespace Graft.Domain

/-- How a character behaves among others of either direction. -/
inductive Direction where
  | other
  | leftToRight
  | rightToLeft
  | arabicLetter
  | arabicNumber
  | europeanNumber
  | europeanSeparator
  | commonSeparator
  | europeanTerminator
  | neutral
  | boundary
  | mark
deriving DecidableEq, Repr, Inhabited

namespace Direction

/-- All of them, in the order in which the table numbers them. -/
def all : Array Direction :=
  #[.other, .leftToRight, .rightToLeft, .arabicLetter, .arabicNumber, .europeanNumber,
    .europeanSeparator, .commonSeparator, .europeanTerminator, .neutral, .boundary, .mark]

/-- The table of those characters that domain names may have. -/
def table : CharTable :=
  CharTable.ofText "0 a 9 0 5 a e 0 5 9 2 8 3 9 5 6 1 7 1 6 1 7 2 5 a 7 1 9 26 1 1a 9 4 a 22 9 1 8
    4 9 a 8 6 9 29 1 18 9 1 1 1c1 9 2 1 7 9 e 1 2 9 1c 1 1 9 11 b 71 1 4 9 2 1 7f 9 2 1 8b b 8 1
    ff 9 5 8 2 b 2d 2 1 b 1 2 1 b 2 2 1 b 2 2 1 b 9 2 36 9 2 3 1 8 2 3 1 7 1 3 1 9 2 b b 3 30 b 15
    4 a 8 1 4 2 3 3 b 1 3 65 b 8 9 1 b 6 3 2 b 2 9 1 b 4 3 2 5 a 3 17 b 1 3 1e b 1d 3 59 b b 3 f 2
    2b b 9 2 2 9 4 2 3 b 1 2 18 b 4 2 1 b 9 2 1 b 3 2 1 b 7 2 29 b 5 2 2 3 37 b 9 3 2a b 39 1 37 b
    1 1 1 b 1 1 4 b 8 1 4 b 1 1 3 b f 1 2 b 2 1 1d b 1 1 3a b 1 1 4 b 6 1 6 b 1 1 14 b 4 1 c 8 2 1
    7 8 1 1 2 b 5 1 39 b 2 1 3 b 1b 1 14 b 2 1 3 b 1 1 b b 2 1 39 b 1 1 4 b 8 1 4 b 3 1 12 b 4 1 b
    8 8 1 1 b 8 1 3a b 1 1 2 b 1 1 1 b 6 1 6 b a 1 b b 4 1 1c b 1 1 3d b 1 1 c b 3 1 23 9 6 8 1 9
    6 b 1 1 3 b 1 1 37 b 1 1 1 b 3 1 5 b 12 1 a b 4 1 12 9 7 1 2 b 1 1 3a b 1 1 f b 9 1 d b 4 1 1a
    b 2 1 39 b 2 1 4 b 5 1 7 b 1 1 14 b 4 1 1b b 1 1 48 b 5 1 3 b 6 1 59 b 1 1 2 b b 8 1 1 7 b 8 1
    62 b 1 1 2 b 9 1 b b 8 1 48 b 2 1 1b b 1 1 1 b 1 1 1 b 1 9 4 1 33 b e 1 1 b 5 1 1 b 2 1 5 b 31
    1 8 b 1 1 66 b 4 1 1 b 6 1 1 b 2 1 2 b 2 1 19 b 2 1 4 b 3 1 10 b 4 1 d b 1 1 2 b 2 1 6 b 1 1 f
    b 1 1 2bf b 3 1 30 9 10 1 60 9 1 1 29a 9 5 1 72 b 3 1 1d b 2 1 1e b e 1 12 b e 1 37 b 7 1 8 b
    1 1 2 b b 1 7 8 1 1 1 b 3 1 10 9 20 1 75 b 2 1 22 b 1 1 76 b 3 1 4 b 2 1 9 b 1 1 6 b 7 9 6 1
    98 9 22 1 17 b 2 1 2 b 3 1 38 b 1 1 1 b 9 1 1 b 1 1 2 b 8 1 6 b d 1 30 b 54 1 30 b 1 1 1 b 5 1
    1 b 1 1 5 b 1 1 28 b 9 1 c b 2 1 20 b 4 1 2 b 2 1 1 b 3 1 38 b 1 1 1 b 2 1 3 b 1 1 1 b 3 1 3a
    b 8 1 2 b 5 1 95 b 3 1 1 b d 1 1 b 7 1 4 b 1 1 6 b 1 1 3 b 2 1 c6 b 41 1 20b a 4 9 20 8 5 9 f
    7 1 9 5b 8 30 b 34 9 2a 8 c 9 14 1 3c 9 88 6 1 8 1 9 122 1 45 9 1a 1 1 9 316 1 1 9 153 1 100 9
    330 1 b5 9 7 1 3 b 4 1 6 9 7 1 7f b 1 1 60 b 20 9 205 1 3 9 19 1 9 b 4 1 2 9 1 1 6 9 4 1 2 9 4
    1 58 b 4 1 3 9 1 1 5a 9 1 1 c4 9 30 1 1bd0 9 40 1 5690 9 40 1 13d 9 3 1 5f b 4 9 1 b a 9 3 1
    1d b 2 1 50 b 2 1 e 9 23 1 65 9 1 1 79 b 1 1 3 b 1 1 4 b 1 1 19 b 2 1 1 9 4 b 4 1 8 8 8 1 34 9
    c 1 44 b a 1 12 b 12 1 d b 1 1 26 b 8 1 19 b b 1 2e b 3 1 30 b 1 1 2 b 4 1 2 b 2 1 27 b 1 1 43
    b 6 1 2 b 2 1 2 b b 1 3 b 1 1 8 b 1 1 2f b 1 1 33 b 1 1 1 b 3 1 2 b 2 1 5 b 2 1 1 b 1 1 2a b 2
    1 8 b b 1 69 9 56 1 25 b 1 1 2 b 1 1 4 b 3 1 4f2e b 94 3 11 9 25d b 25 9 2e 3 18d 1 101 9 1 1
    3e 9 4d 1 3 9 40 1 2d b 83 1 60 b 1 5 1f 1 76 b a 1 480 2 11f 9 1 2 e1 b f 2 28 b 8 2 a5 b 6 2
    4e 9 7 2 1c0 3 24 b c 4 10 2 29 b 5 9 1 2 f1 4 20 2 2b b 2 2 15 3 e 9 2a b 6 2 30 3 16 b b 3
    1f 2 12 b 4 2 7a 1 1 b 1 1 36 b f 1 b 9 14 1 a b 1 1 2 b 2 1 a b 3 1 31 b 4 1 2 b 2 1 7 b e 1
    30 b 3 1 24 b 5 1 1 b 9 1 3d b 1 1 c b 2 1 34 b 9 1 a b 4 1 2 b 1 1 5f b 3 1 2 b 1 1 1 b 2 1 6
    b 1 1 2 b 3f 1 5f b 1 1 3 b d 1 10 b 2 1 39 b 2 1 3 b 1 1 25 b 1a 1 3b b 7 1 c b 1 1 1 b 1 1 1
    b 1 1 e b 1f 1 38 b 8 1 2 b 3 1 1 b 1 1 17 b 1 1 54 b 6 1 1 b 1 1 4 b 2 1 1 b 2 1 ee b 6 1 4 b
    2 1 1 b 2 1 1b b 24 1 33 b 8 1 2 b 1 1 1 b 2 1 1f 9 20 1 2b b 1 1 1 b 1 1 2 b 6 1 1 b 1 1 65 b
    3 1 2 b 4 1 1 b 9 1 ff b 9 1 1 b 2 1 100 b 2 1 1 b 1 1 4 b 1 1 90 b 8 1 4 b 1 1 20 b 6 1 2 b 2
    1 28 b 6 1 2 b 4 1 8 b 9 1 1 b 6 1 2 b 3 1 2e b d 1 1 b 2 1 c6 b 1 1 1 b 3 1 1 b 1 1 c9 b e 1
    54 b 17 1 1 b 7 1 1 b 2 1 1 b 4b 1 31 b 15 1 1 b 9 1 40 b 3 1 2 b 1 1 1 b 1 1 15b b 2 1 b b 2
    1 34 b 8 1 2 b 1 1 1 b 1 1 17 b 56 1 25 9 8 8 4 9 1e 1 1441 b 1 1 6 b 19 1 2cbe b c 1 3 b 3 1
    9c0 b 5 1 3b b 7 1 418 b 1 1 3f b 4 1 4f 9 1 1 1 b c 1 4cad b 2 1 f61 9 300 b 50 1 217 b 3 1
    11 b 8 1 2 b 7 1 1e b 4 1 3b 9 59 b 3 9 7b 1 40 9 60 1 6a0 b 37 1 4 b 32 1 8 b 1 1 e b 1 1 16
    b 465 1 100 b 100 1 30 b 7 1 177 b 12 1 2c b 4 1 f 8 1d1 1 1c b 4 1 fe b 2 1 f3 b 1 1 2 b 1 1
    7 b 2 1 5 b 9 1 102 2 d0 b 52 2 22 b 7 2 326 3 27f 9 260 1 1d 9 3 1 3d 9 39 1 7a 9 da0 1"

/-- Whether a character is one that a script from right to left brings along. -/
def isRight : Direction → Bool
  | .rightToLeft | .arabicLetter | .arabicNumber => true
  | _ => false

/-- Whether a character may stand in a label of either direction. -/
def isCommon : Direction → Bool
  | .europeanNumber | .europeanSeparator | .commonSeparator | .europeanTerminator | .neutral
  | .boundary | .mark => true
  | _ => false

end Direction

/-- How a character behaves. -/
def direction (c : Char) : Direction := Direction.all.getD (Direction.table.get c) .other

/-- The rules for a label from left to right: nothing from right to left in it, and a letter or a
number at its end. `last` is the last character that is no mark. -/
def followsLeft (ds : List Direction) (last : Direction) : Bool :=
  ds.all (fun d => d == .leftToRight || d.isCommon) &&
    (last == .leftToRight || last == .europeanNumber)

/-- The rules for a label from right to left: nothing from left to right in it, numbers of one kind,
and a letter or a number at its end. -/
def followsRight (ds : List Direction) (last : Direction) : Bool :=
  ds.all (fun d => d.isRight || d.isCommon) && (last.isRight || last == .europeanNumber) &&
    !(ds.contains .europeanNumber && ds.contains .arabicNumber)

/-- Whether a label follows the rules of the direction in which its first character is written. -/
def followsDirection (label : List Char) : Bool :=
  match label.map direction with
  | [] => true
  | first :: rest =>
    let ds := (first :: rest).reverse.dropWhile (· == .mark)
    let last := ds.headD first
    match first with
    | .leftToRight => followsLeft ds last
    | .rightToLeft | .arabicLetter => followsRight ds last
    | _ => false

/-- Whether a label has characters from right to left. -/
def hasRight (label : List Char) : Bool := label.any fun c => (direction c).isRight

end Graft.Domain
