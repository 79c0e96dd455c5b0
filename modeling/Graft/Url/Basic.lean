import Graft.Url.Host

/-!
# URLs

* `Url.Kind`: schemes that name a network protocol, the one of files, and all others.
* `Url`: the parts of a URL.
* `Url.text`: a URL as text.
-/

namespace Graft

namespace Url

/-- What a scheme is used for. -/
inductive Kind where
  /-- A network protocol. -/
  | network
  | file
  | other
deriving DecidableEq, Repr, Inhabited

/-- The network protocols, each with the port that it uses if none is given. -/
def protocols : List (String × Nat) :=
  [("http", 80), ("https", 443), ("ws", 80), ("wss", 443), ("ftp", 21)]

/-- What the scheme of a name is used for. -/
def Kind.ofScheme (scheme : List Char) : Kind :=
  if scheme == "file".toList then .file
  else if protocols.any fun p => p.1.toList == scheme then .network
  else .other

/-- The port that a scheme uses if none is given. -/
def usualPort? (scheme : List Char) : Option Nat :=
  (protocols.find? fun p => p.1.toList == scheme).map (·.2)

/-- A path: a text that is taken as it is, or segments divided by slashes. -/
inductive Path where
  | plain (text : List Char)
  | segments (ss : List (List Char))
deriving DecidableEq, Repr, Inhabited

end Url

/-- A URL. -/
structure Url where
  scheme : List Char
  username : List Char
  password : List Char
  host : Option Url.Host
  port : Option Nat
  path : Url.Path
  query : Option (List Char)
  fragment : Option (List Char)
deriving DecidableEq, Repr, Inhabited

namespace Url

/-- The text of a path. -/
def Path.text : Path → List Char
  | .plain cs => cs
  | .segments ss => ss.flatMap fun s => '/' :: s

/-- The user, as it stands in front of the host. -/
def userText (u : Url) : List Char :=
  if u.username.isEmpty && u.password.isEmpty then []
  else u.username ++ (if u.password.isEmpty then [] else ':' :: u.password) ++ ['@']

/-- What stands between scheme and path. Without a host, a path that begins with two slashes is set
off by a dot. -/
def authorityText (u : Url) : List Char :=
  match u.host with
  | some host =>
    "//".toList ++ u.userText ++ host.text ++
      (match u.port with
      | some n => ':' :: digitsOf n
      | none => [])
  | none =>
    match u.path with
    | .segments ([] :: _ :: _) => "/.".toList
    | _ => []

/-- The text of a URL. -/
def text (u : Url) : List Char :=
  u.scheme ++ ':' :: u.authorityText ++ u.path.text ++
    (match u.query with
    | some cs => '?' :: cs
    | none => []) ++
    (match u.fragment with
    | some cs => '#' :: cs
    | none => [])

end Url

end Graft
