import Graft.Text.Letter

/-!
# Snake case

The words of a name in lower case with underscores between them.

A name is cut at every character that is no letter and no digit. Inside such a piece a word ends
where a capital follows a small letter, and in front of the last of several capitals if a small
letter follows it: `HTTPError` is `http_error`. Digits go with what is in front of them.
-/

namespace Graft.SnakeCase

/-- What kind of letter a word has gone on with. -/
inductive Mode where
  | boundary
  | lower
  | upper
deriving DecidableEq

/-- The mode after a character, if no word ends there. -/
def Mode.after (mode : Mode) (c : Char) : Mode :=
  if lowercase.contains c then .lower
  else if uppercase.contains c then .upper
  else mode

/-- The words of a piece; `word` is the beginning of the current one. -/
def split (mode : Mode) (word : List Char) : List Char → List (List Char)
  | [] => []
  | [c] => [word ++ [c]]
  | c :: next :: rest =>
    if mode.after c == .lower && uppercase.contains next then
      (word ++ [c]) :: split .boundary [] (next :: rest)
    else if mode == .upper && uppercase.contains c && lowercase.contains next then
      word :: split .boundary [c] (next :: rest)
    else split (mode.after c) (word ++ [c]) (next :: rest)

/-- The runs of letters and digits of a name. -/
def pieces : List Char → List (List Char)
  | [] => [[]]
  | c :: rest =>
    match pieces rest with
    | piece :: more => if alphanumeric.contains c then (c :: piece) :: more else [] :: piece :: more
    | [] => [[c]]

/-- The words of a name. -/
def words (cs : List Char) : List (List Char) := (pieces cs).flatMap (split .boundary [])

/-- A word in lower case. A capital sigma at its end becomes a final sigma. -/
def lower : List Char → List Char
  | [] => []
  | [c] => if c == 'Σ' then ['ς'] else lowerChars c
  | c :: rest => lowerChars c ++ lower rest

end SnakeCase

/-- A name in snake case. -/
def snakeCase (cs : List Char) : List Char :=
  List.intercalate ['_'] ((SnakeCase.words cs).map SnakeCase.lower)

end Graft
