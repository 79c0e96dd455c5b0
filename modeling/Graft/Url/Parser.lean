import Graft.Url.Basic

/-!
# Reading URLs

A URL is read from left to right: its scheme, then, after two slashes, a user, a host and a port,
then a path, a query and a fragment. Only what stands before the path can be wrong, and the first
fault is told.

* `Url.read`: the URL that a text spells.
* `Url.check`: why a text is no URL.
-/

namespace Graft.Url

/-! ## 1. The scheme -/

/-- Characters that are removed from both ends of a text. -/
def isOuterBlank (c : Char) : Bool := c.toNat ≤ 0x20

/-- Characters that are removed everywhere. -/
def isIgnored (c : Char) : Bool := c == '\t' || c == '\n' || c == '\r'

/-- A text without the characters that do not count. -/
def clean (cs : List Char) : List Char :=
  ((((cs.dropWhile isOuterBlank).reverse).dropWhile isOuterBlank).reverse).filter (!isIgnored ·)

/-- Characters that a scheme may have behind its first letter. -/
def isSchemeChar (c : Char) : Bool := c.isAlphanum || c == '+' || c == '-' || c == '.'

/-- The scheme in small letters, and what follows its colon. -/
def scheme? (cs : List Char) : Option (List Char × List Char) :=
  match cs.dropWhile isSchemeChar with
  | ':' :: rest =>
    if cs.head?.any Char.isAlpha then some ((cs.takeWhile isSchemeChar).map Char.toLower, rest)
    else none
  | _ => none

/-! ## 2. Path, query and fragment -/

/-- Whether a character divides the segments of a path. -/
def Kind.isSlash (k : Kind) (c : Char) : Bool := c == '/' || (k != .other && c == '\\')

/-- Whether a character ends the part before the path. -/
def Kind.endsAuthority (k : Kind) (c : Char) : Bool := k.isSlash c || c == '?' || c == '#'

/-- A text in which `%2e` is written as a dot. -/
def plainDots : List Char → List Char
  | '%' :: '2' :: 'e' :: rest | '%' :: '2' :: 'E' :: rest => '.' :: plainDots rest
  | c :: rest => c :: plainDots rest
  | [] => []

/-- Whether a segment is the letter of a drive, followed by a colon or a bar. -/
def isDrive : List Char → Bool
  | [letter, c] => letter.isAlpha && (c == ':' || c == '|')
  | _ => false

/-- Segments without the last one. The letter of a drive stays. Segments are backwards. -/
def dropSegment (k : Kind) : List (List Char) → List (List Char)
  | [] => []
  | [s] => if k == .file && isDrive s then [s] else []
  | _ :: rest => rest

/-- Segments behind those that are `done`, which are backwards: one dot stands for nothing, two for
dropping the segment before. -/
def resolveDots (k : Kind) (done : List (List Char)) : List (List Char) → List (List Char)
  | [] => done.reverse
  | s :: rest =>
    let close (done : List (List Char)) := if rest.isEmpty then [] :: done else done
    if plainDots s == "..".toList then resolveDots k (close (dropSegment k done)) rest
    else if plainDots s == ".".toList then resolveDots k (close done) rest
    else if k == .file && done.isEmpty && isDrive s then
      resolveDots k ((s.take 1 ++ [':']) :: done) rest
    else resolveDots k (percentEncode inSegment s :: done) rest

/-- A path of segments. The slash at its front divides nothing; without one, a path that is empty
has no segment if the scheme allows that. -/
def readSegments (k : Kind) (cs : List Char) : Path :=
  match cs with
  | [] => .segments (if k == .other then [] else [[]])
  | c :: rest =>
    let inner := if k.isSlash c then rest else c :: rest
    .segments (resolveDots k [] (inner.splitOnP k.isSlash))

/-- What stands before the query and the fragment, and these two. -/
def splitTail (k : Kind) (cs : List Char) :
    List Char × Option (List Char) × Option (List Char) :=
  let isMark (c : Char) : Bool := c == '?' || c == '#'
  let fragment (cs : List Char) : Option (List Char) :=
    match cs with
    | _ :: f => some (percentEncode inFragment f)
    | [] => none
  let queryEnd (c : Char) : Bool := c != '#'
  match cs.dropWhile (!isMark ·) with
  | '?' :: rest =>
    (cs.takeWhile (!isMark ·),
      some (percentEncode (if k == .other then inQuery else inSpecialQuery)
        (rest.takeWhile queryEnd)),
      fragment (rest.dropWhile queryEnd))
  | tail => (cs.takeWhile (!isMark ·), none, fragment tail)

/-! ## 3. User, host and port -/

/-- Name and password of a user. -/
structure User where
  name : List Char
  password : List Char

/-- A user: the name up to the first colon, and the password behind it. -/
def User.read (cs : List Char) : User where
  name := percentEncode inUser (cs.takeWhile (· != ':'))
  password := percentEncode inUser ((cs.dropWhile (· != ':')).drop 1)

/-- What stands before and behind the last at sign; nothing before it if there is none. -/
def splitUser (cs : List Char) : Option (List Char) × List Char :=
  let host := (cs.reverse.takeWhile (· != '@')).reverse
  if host.length == cs.length then (none, cs)
  else (some (cs.take (cs.length - host.length - 1)), host)

/-- The host, up to a colon outside of square brackets, and what follows. -/
def splitHost (inside : Bool) : List Char → List Char × List Char
  | [] => ([], [])
  | c :: rest =>
    if c == ':' && !inside then ([], c :: rest)
    else
      let inside := if c == '[' then true else if c == ']' then false else inside
      let (host, tail) := splitHost inside rest
      (c :: host, tail)

/-- The greatest port. -/
def greatestPort : Nat := 65535

/-- A port, and what follows it. Digits go up to the end, or to a backslash. -/
def readPort (cs : List Char) : Except Failure (Option Nat × List Char) :=
  let isDigit (c : Char) : Bool := (digitValue? c).isSome
  let rest := cs.dropWhile isDigit
  if greatestPort < (digitsValue? 0 (cs.takeWhile isDigit)).getD 0 then .error .invalidPort
  else if rest.isEmpty || rest.head? == some '\\' then .ok (natural? (cs.takeWhile isDigit), rest)
  else .error .invalidPort

/-- User, host, port, and the beginning of a path that a backslash made. -/
structure Authority where
  user : User
  host : Host
  port : Option Nat
  rest : List Char

/-- The part before the path, behind two slashes. `isLast` tells that nothing follows it. A host can
be missing only if there is no user and no port, and not at all with a network protocol. -/
def readAuthority (scheme : List Char) (k : Kind) (isLast : Bool) (cs : List Char) :
    Except Failure Authority := do
  let (userText, hostAndPort) := splitUser cs
  if userText == some [] && hostAndPort.isEmpty && !isLast then throw .emptyHost
  let user := User.read (userText.getD [])
  let (hostText, tail) := splitHost false hostAndPort
  if k == .network && hostText.isEmpty then throw .emptyHost
  let host ← if k == .network then Host.read hostText else Host.readOpaque hostText
  if host == .empty && !tail.isEmpty then throw .emptyHost
  let (port, rest) ← readPort (tail.drop 1)
  if host == .empty && !(user.name.isEmpty && user.password.isEmpty) then throw .emptyHost
  return ⟨user, host, if port == usualPort? scheme then none else port, rest⟩

/-! ## 4. URLs -/

/-- A URL of a scheme, from its authority and what follows. -/
def withAuthority (scheme : List Char) (k : Kind) (cs : List Char) : Except Failure Url := do
  let front := cs.takeWhile (!k.endsAuthority ·)
  let back := cs.dropWhile (!k.endsAuthority ·)
  let a ← readAuthority scheme k back.isEmpty front
  let (path, query, fragment) := splitTail k (a.rest ++ back)
  return ⟨scheme, a.user.name, a.user.password, some a.host, a.port, readSegments k path, query,
    fragment⟩

/-- The host of a file and what follows: the letter of a drive is no host, and neither is the name
of the machine itself. -/
def readFileHost (cs : List Char) : Except Failure (Host × List Char) := do
  let front := cs.takeWhile (!Kind.file.endsAuthority ·)
  let back := cs.dropWhile (!Kind.file.endsAuthority ·)
  if isDrive front then return (.empty, cs)
  else if front.isEmpty then return (.empty, back)
  else
    let host ← Host.read front
    return (if host == .domain "localhost".toList then .empty else host, back)

/-- The URL of a file. -/
def readFile (scheme : List Char) (cs : List Char) : Except Failure Url := do
  let (host, rest) ←
    match cs with
    | a :: b :: rest =>
      if Kind.file.isSlash a && Kind.file.isSlash b then readFileHost rest
      else pure (.empty, cs)
    | _ => pure (.empty, cs)
  let (path, query, fragment) := splitTail .file rest
  return ⟨scheme, [], [], some host, none, readSegments .file path, query, fragment⟩

/-- A URL of a scheme of its own. -/
def readOther (scheme : List Char) (cs : List Char) : Except Failure Url :=
  match cs with
  | '/' :: '/' :: rest => withAuthority scheme .other rest
  | cs =>
    let (path, query, fragment) := splitTail .other cs
    let path := if cs.head? == some '/' then readSegments .other path
      else .plain (percentEncode inOpaque path)
    .ok ⟨scheme, [], [], none, none, path, query, fragment⟩

/-- The URL that a text spells. -/
def read (cs : List Char) : Except Failure Url :=
  match scheme? (clean cs) with
  | none => .error .relativeWithoutBase
  | some (scheme, rest) =>
    match Kind.ofScheme scheme with
    | .network => withAuthority scheme .network (rest.dropWhile Kind.network.isSlash)
    | .file => readFile scheme rest
    | .other => readOther scheme rest

/-- Why a text is no URL; nothing if it is one. -/
def check (cs : List Char) : Option Failure :=
  match read cs with
  | .ok _ => none
  | .error cause => some cause

end Graft.Url
