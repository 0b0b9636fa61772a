import SchemaTypes.Yaml.Character

set_option autoImplicit false

/-!
# Places in a YAML text

A cursor is a place in a text: what is left of the text, and the line and column reached.  The
number of characters left bounds every loop over them.
-/

namespace SchemaTypes.Yaml

/-- A place in a text. -/
structure Cursor where
  /-- The text from here on. -/
  rest : List Char
  /-- The number of characters in it. -/
  left : Nat
  line : Nat
  column : Nat
  deriving Repr, Inhabited

namespace Cursor

/-- The start of a text. -/
def start (text : List Char) : Cursor := ⟨text, text.length, 0, 0⟩

/-- Whether the text ends here. -/
def atEnd (c : Cursor) : Bool := c.rest.isEmpty

/-- The place `count` characters on, on the same line. -/
def skip (c : Cursor) (count : Nat) : Cursor :=
  ⟨c.rest.drop count, c.left - count, c.line, c.column + count⟩

/-- The place at the rest `rest` of the line, which lies `count` characters on. -/
def moveTo (c : Cursor) (rest : List Char) (count : Nat) : Cursor :=
  ⟨rest, c.left - count, c.line, c.column + count⟩

/-- The longest run of characters with a property, and the place after it.  The property must not
hold of line breaks. -/
def span (p : Char → Bool) (c : Cursor) : List Char × Cursor :=
  let run := c.rest.takeWhile p
  (run, c.moveTo (c.rest.dropWhile p) run.length)

/-- The place after the longest run of characters with a property. -/
def skipWhile (p : Char → Bool) (c : Cursor) : Cursor := (c.span p).2

/-- The place after a comment, if one starts here. -/
def skipComment (c : Cursor) : Cursor :=
  match c.rest with
  | '#' :: _ => c.skipWhile fun x => !isBreak x
  | _ => c

/-- The line break that stands here, and the start of the next line.  Of the breaks only the two
separators are kept as they are; a carriage return and a line feed are one break. -/
def lineBreak? (c : Cursor) : Option (Char × Cursor) :=
  match c.rest with
  | '\r' :: '\n' :: rest => some ('\n', ⟨rest, c.left - 2, c.line + 1, 0⟩)
  | x :: rest =>
    if isBreak x then
      some (if isSeparator x then x else '\n', ⟨rest, c.left - 1, c.line + 1, 0⟩)
    else none
  | [] => none

/-- The place after the blanks, the comment and the line break that end a line; `none` if something
else follows. -/
def endLine? (c : Cursor) : Option Cursor :=
  let c := (c.skipWhile isBlank).skipComment
  match c.lineBreak? with
  | some (_, next) => some next
  | none => if c.atEnd then some c else none

/-- Whether a line starts here with three times `mark` and nothing joined to it. -/
def startsWithMark (mark : Char) (c : Cursor) : Bool :=
  c.column == 0 &&
    match c.rest with
    | x :: y :: z :: rest => x == mark && y == mark && z == mark && endsWord rest
    | _ => false

/-- Whether a line starts here that begins or ends a document. -/
def atDocumentMark (c : Cursor) : Bool := c.startsWithMark '-' || c.startsWithMark '.'

end Cursor

end SchemaTypes.Yaml
