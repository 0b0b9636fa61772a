import SchemaTypes.Text.Hex
import SchemaTypes.Text.Utf8
import SchemaTypes.Yaml.Cursor
import SchemaTypes.Yaml.Token

set_option autoImplicit false

/-!
# Tags

A tag names the type of a node.  It is written in full between angle brackets, or as a handle
between exclamation marks and a suffix, or as one exclamation mark and a suffix.  Its text may hold
percent escapes, and is a series of octets: the escapes need not encode characters.  A zero octet
ends it.
-/

namespace SchemaTypes.Yaml.Tag

/-- The characters that tags may hold, besides letters, digits, underscores and hyphens. -/
def marks : List Char := (";/?:@&=+$.%!~*()".toList).concat singleQuote

/-- The characters of a tag; in full form also comma and square brackets. -/
def isTagChar (full : Bool) (c : Char) : Bool :=
  isWord c || marks.contains c || (full && (c = ',' || c = '[' || c = ']'))

/-- How many octets begin with this one. -/
def octetCount? (octet : Nat) : Option Nat :=
  if octet < 0x80 then some 1
  else if octet / 0x20 = 6 then some 2
  else if octet / 0x10 = 14 then some 3
  else if octet / 0x08 = 30 then some 4
  else none

/-- The octet that a percent escape stands for. -/
def octetAt? : List Char → Option Nat
  | '%' :: a :: b :: _ => Hex.number? 0 [a, b]
  | _ => none

/-- The next `count` escaped octets, each of which continues a character. -/
def tailAt? : Nat → List Char → Option (List UInt8)
  | 0, _ => some []
  | count + 1, text =>
    match octetAt? text, tailAt? count (text.drop 3) with
    | some octet, some octets =>
      if octet / 0x40 = 2 then some (UInt8.ofNat octet :: octets) else none
    | _, _ => none

/-- Reads escaped octets, the first of which tells how many they are. -/
def readEscaped? (text : List Char) : Option (List UInt8 × Nat) :=
  match octetAt? text with
  | none => none
  | some octet =>
    match octetCount? octet with
    | none => none
    | some count =>
      match tailAt? (count - 1) (text.drop 3) with
      | some octets => some (UInt8.ofNat octet :: octets, count)
      | none => none

/-- Reads the characters of a tag, at most `bound` of them: the octets they stand for, and the place
after them. -/
def readText? (full : Bool) : Nat → Cursor → Option (List UInt8 × Cursor)
  | 0, c => some ([], c)
  | bound + 1, c =>
    match c.rest with
    | [] => some ([], c)
    | x :: _ =>
      if x = '%' then
        match readEscaped? c.rest with
        | none => none
        | some (run, count) =>
          match readText? full bound (c.skip (3 * count)) with
          | some (more, last) => some (run ++ more, last)
          | none => none
      else if isTagChar full x then
        match readText? full bound (c.skip 1) with
        | some (more, last) => some (Utf8.encodeChar x ++ more, last)
        | none => none
      else some ([], c)

/-- The octets of the text of a tag and the place after it. -/
def readSuffix? (full : Bool) (c : Cursor) : Option (List UInt8 × Cursor) :=
  readText? full c.left c

/-- The octets up to the first zero. -/
def untilZero (octets : List UInt8) : List UInt8 := octets.takeWhile (· != 0)

/-- A handle at an exclamation mark: letters, digits, underscores and hyphens, and a second mark if
there is one. -/
def readHandle (c : Cursor) : List Char × Cursor :=
  let (name, after) := (c.skip 1).span isWord
  match after.rest with
  | '!' :: _ => ('!' :: name ++ ['!'], after.skip 1)
  | _ => ('!' :: name, after)

/-- Whether a handle has a second exclamation mark. -/
def isClosed (handle : List Char) : Bool := handle.length != 1 && handle.getLast? == some '!'

/-- The start of the tags whose meaning is fixed. -/
def standardStart : List UInt8 := Utf8.encode "tag:yaml.org,2002:".toList

/-- The tag that is a single exclamation mark. -/
def bare : List UInt8 := Utf8.encodeChar '!'

/-- The tag of a handle without second mark, whose name is the start of the suffix.  A single
exclamation mark is a tag of its own. -/
def ofSuffix (suffix : List UInt8) : WrittenTag :=
  if suffix.isEmpty then ⟨"", bare⟩ else ⟨"!", suffix⟩

/-- Reads a tag in full form after its opening bracket. -/
def readFull? (c : Cursor) : Option (WrittenTag × Cursor) :=
  match readSuffix? true c with
  | none => none
  | some (text, after) =>
    match after.rest with
    | '>' :: _ => if text.isEmpty then none else some (⟨"", untilZero text⟩, after.skip 1)
    | _ => none

/-- Reads a tag with a handle. -/
def readShort? (c : Cursor) : Option (WrittenTag × Cursor) :=
  let (handle, after) := readHandle c
  match readSuffix? false after with
  | none => none
  | some (text, last) =>
    if isClosed handle then
      if text.isEmpty then none
      else some (⟨String.ofList handle, untilZero text⟩, last)
    else some (ofSuffix (untilZero (Utf8.encode (handle.drop 1) ++ text)), last)

/-- Reads a tag at its exclamation mark.  A blank or a line break follows, or a comma between
brackets. -/
def read? (inFlow : Bool) (c : Cursor) : Option (WrittenTag × Cursor) :=
  let result :=
    match c.rest with
    | '!' :: '<' :: _ => readFull? (c.skip 2)
    | _ => readShort? c
  match result with
  | none => none
  | some (tag, after) =>
    if endsWord after.rest || (inFlow && after.rest.head? == some ',') then some (tag, after)
    else none

end SchemaTypes.Yaml.Tag
