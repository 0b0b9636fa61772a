import SchemaTypes.Yaml.Cursor

set_option autoImplicit false

/-!
# Gaps between words

Blanks and line breaks inside a text that runs over several lines.  Blanks alone are kept.  A single
line break is folded to a space, of several the first is dropped, and blanks beside breaks are
dropped too.
-/

namespace SchemaTypes.Yaml

/-- What stands between two words of a text. -/
inductive Gap where
  /-- Blanks on one line. -/
  | blanks (run : List Char)
  /-- A line break, and the further breaks after it. -/
  | folded (first : Char) (more : List Char)
  /-- A line break that is escaped, and the further breaks after it. -/
  | escaped (more : List Char)
  deriving Repr, Inhabited

namespace Gap

/-- What a gap adds to the text. -/
def text : Gap → List Char
  | blanks run => run
  | folded first more =>
    if first = '\n' then (if more.isEmpty then [' '] else more) else first :: more
  | escaped more => more

/-- Whether a line ends in the gap. -/
def hasBreak : Gap → Bool
  | blanks _ => false
  | _ => true

/-- The line breaks from the start of a line on, and the place of the next character that is none.
Blanks around them are skipped; a tab left of `indent` is refused.  At most `bound` breaks. -/
def readBreaks (indent : Nat) : Nat → Cursor → Option (List Char × Cursor)
  | bound, c =>
    let (run, after) := c.span isBlank
    if (run.take (indent - c.column)).contains '\t' then none
    else
      match bound, after.lineBreak? with
      | bound + 1, some (x, next) =>
        match readBreaks indent bound next with
        | some (more, last) => some (x :: more, last)
        | none => none
      | _, _ => some ([], after)

/-- Reads a gap, which may be empty. -/
def read? (indent : Nat) (c : Cursor) : Option (Gap × Cursor) :=
  let (run, after) := c.span isBlank
  match after.lineBreak? with
  | none => some (blanks run, after)
  | some (first, next) =>
    match readBreaks indent next.left next with
    | some (more, last) => some (folded first more, last)
    | none => none

/-- Reads the gap after an escaped line break. -/
def readEscaped? (c : Cursor) : Option (Gap × Cursor) :=
  match readBreaks 0 c.left c with
  | some (more, last) => some (escaped more, last)
  | none => none

end Gap

end SchemaTypes.Yaml
