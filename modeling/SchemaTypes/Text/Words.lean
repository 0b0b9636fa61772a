import SchemaTypes.Text.Alphanumeric
import SchemaTypes.Text.CaseMapping

set_option autoImplicit false

/-!
# Words

A text falls into words at every character that is neither letter nor digit, and inside a run of
letters and digits where lower case turns to upper case and before the last capital of a run of
capitals that lower case follows: `HTTPServer2go` is `HTTP`, `Server2go`.  The upper camel case of a
text is its words, capitalized and joined.
-/

namespace SchemaTypes.Words

open CodePoints

/-- The maximal runs of letters and digits of a text; `current` is the open run, last first. -/
def runsFrom (current : List Char) : List Char → List (List Char)
  | [] => if current.isEmpty then [] else [current.reverse]
  | c :: rest =>
    if isAlphanumeric c then runsFrom (c :: current) rest
    else if current.isEmpty then runsFrom [] rest
    else current.reverse :: runsFrom [] rest

/-- The case of the letters last seen in a word. -/
inductive Mode where
  | boundary
  | lower
  | upper
  deriving DecidableEq, Repr, Inhabited

/-- Cuts a run of letters and digits into words; `word` is the open word, last first. -/
def cut (mode : Mode) (word : List Char) : List Char → List (List Char)
  | [] => []
  | [c] => [(c :: word).reverse]
  | c :: next :: rest =>
    let here := if isLowercase c then Mode.lower else if isUppercase c then Mode.upper else mode
    if here = Mode.lower && isUppercase next then
      (c :: word).reverse :: cut Mode.boundary [] (next :: rest)
    else if mode = Mode.upper && isUppercase c && isLowercase next then
      word.reverse :: cut Mode.boundary [c] (next :: rest)
    else cut here (c :: word) (next :: rest)

/-- The words of a text. -/
def ofText (text : List Char) : List (List Char) :=
  (runsFrom [] text).flatMap (cut Mode.boundary [])

/-- The lower-case form of what follows a word's first letter; a sigma at its end is final. -/
def lowerRest : List Char → List Char
  | [] => []
  | [c] => if c = capitalSigma then [finalSigma] else lower c
  | c :: next :: rest => lower c ++ lowerRest (next :: rest)

/-- A word with an upper-case first letter and the rest in lower case. -/
def capitalize : List Char → List Char
  | [] => []
  | c :: rest => upper c ++ lowerRest rest

/-- The upper camel case of a text. -/
def upperCamel (text : String) : String :=
  String.ofList ((ofText text.toList).flatMap capitalize)

end SchemaTypes.Words
