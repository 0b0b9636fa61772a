import SchemaTypes.Text.Split
import SchemaTypes.Text.Words

set_option autoImplicit false

/-!
# Identifiers from texts

Turning arbitrary texts into identifiers, file stems and name spaces.
-/

namespace SchemaTypes.Identifier

/-- A character of an identifier: an ASCII letter, digit or underscore. -/
def isWordChar (c : Char) : Bool := c.isAlphanum || c = '_'

/-- An identifier from characters: every other character becomes an underscore, a leading digit
gets one in front, and nothing at all becomes `Model`. -/
def sanitizeChars (raw : List Char) : List Char :=
  match raw.map fun c => if isWordChar c then c else '_' with
  | [] => "Model".toList
  | c :: rest => if c.isDigit then '_' :: c :: rest else c :: rest

/-- An identifier from a text. -/
def sanitize (raw : String) : String := String.ofList (sanitizeChars raw.toList)

/-- The name of the file that a document id ends in, without its extension. -/
def documentStem (document : List Char) : List Char :=
  let trimmed := Text.trimEnd (· = '/') document
  let file :=
    match Text.splitLast? '/' trimmed with
    | some (_, last) => last
    | none => trimmed
  match Text.splitLast? '.' file with
  | some (stem, _) => if stem.isEmpty then file else stem
  | none => file

/-- What follows the first `://`, or the whole text. -/
def afterScheme (text : List Char) : List Char := (find? text).getD text
where
  find? : List Char → Option (List Char)
    | ':' :: '/' :: '/' :: rest => some rest
    | _ :: rest => find? rest
    | [] => none

/-- A text without the extension of its last segment. -/
def withoutExtension (text : List Char) : List Char :=
  match Text.splitLast? '.' text with
  | some (stem, extension) =>
    if extension.contains '/' || stem.isEmpty then text else stem
  | none => text

/-- The maximal runs of ASCII letters and digits; `current` is the open run, last first. -/
def asciiRuns (current : List Char) : List Char → List (List Char)
  | [] => if current.isEmpty then [] else [current.reverse]
  | c :: rest =>
    if c.isAlphanum then asciiRuns (c :: current) rest
    else if current.isEmpty then asciiRuns [] rest
    else current.reverse :: asciiRuns [] rest

/-- A name space for a document id: its runs of ASCII letters and digits in lower case, without
scheme and extension, joined by underscores; `document` if there are none. -/
def documentNamespace (document : List Char) : List Char :=
  match asciiRuns [] (withoutExtension (afterScheme document)) with
  | [] => "document".toList
  | runs => (Text.join '_' runs).map Char.toLower

end SchemaTypes.Identifier
