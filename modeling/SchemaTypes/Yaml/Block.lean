import SchemaTypes.Yaml.Cursor

set_option autoImplicit false

/-!
# Block scalars

A block scalar is text without quotes whose lines are all indented.  Its header says whether lines
are folded, how many columns the indentation has, if that is not to be found from the text, and what
becomes of the line breaks at the end: all but one are dropped, or all are kept, or none is.
-/

namespace SchemaTypes.Yaml.Block

/-- What becomes of the line breaks at the end. -/
inductive Chomping where
  /-- One is kept. -/
  | clip
  /-- None is kept. -/
  | strip
  /-- All are kept. -/
  | keep
  deriving DecidableEq, Repr, Inhabited

/-- The header of a block scalar. -/
structure Header where
  chomping : Chomping
  /-- The further indentation, if it is given. -/
  increment : Option Nat
  deriving DecidableEq, Repr, Inhabited

/-- The chomping that a character stands for. -/
def chomping? (c : Char) : Option Chomping :=
  if c = '+' then some .keep else if c = '-' then some .strip else none

/-- The number that a digit stands for; zero is refused. -/
def increment? (c : Char) : Option Nat := if c = '0' then none else some (c.toNat - 48)

/-- Reads the header after its indicator, and how many characters it has.  The chomping and the
increment come in either order. -/
def readHeader? : List Char → Option (Header × Nat)
  | [] => some (⟨.clip, none⟩, 0)
  | [c] =>
    match chomping? c with
    | some chomping => some (⟨chomping, none⟩, 1)
    | none =>
      if c.isDigit then (increment? c).map fun n => (⟨.clip, some n⟩, 1)
      else some (⟨.clip, none⟩, 0)
  | c :: d :: _ =>
    match chomping? c with
    | some chomping =>
      if d.isDigit then (increment? d).map fun n => (⟨chomping, some n⟩, 2)
      else some (⟨chomping, none⟩, 1)
    | none =>
      if c.isDigit then
        match increment? c, chomping? d with
        | some n, some chomping => some (⟨chomping, some n⟩, 2)
        | some n, none => some (⟨.clip, some n⟩, 1)
        | none, _ => none
      else some (⟨.clip, none⟩, 0)

/-- The line breaks of blank lines, and the place of the first character that is neither indentation
nor such a break. -/
structure Blanks where
  breaks : List Char
  after : Cursor
  /-- The greatest column reached. -/
  widest : Nat
  deriving Repr, Inhabited

/-- Whether `column` lies left of the indentation; if that is not known, every column does. -/
def isLeftOf (column : Nat) (indent : Option Nat) : Bool :=
  match indent with
  | some n => column < n
  | none => true

/-- The number of spaces that belong to the indentation of a line. -/
def indentation (indent : Option Nat) (c : Cursor) : Nat :=
  let spaces := (c.rest.takeWhile (· = ' ')).length
  match indent with
  | some n => min spaces (n - c.column)
  | none => spaces

/-- Reads blank lines.  A tab in the indentation is refused.  At most `bound` lines. -/
def readBlanks? (indent : Option Nat) : Nat → Cursor → Option Blanks
  | bound, c =>
    let after := c.skip (indentation indent c)
    if isLeftOf after.column indent && after.rest.head? == some '\t' then none
    else
      match bound, after.lineBreak? with
      | bound + 1, some (x, next) =>
        match readBlanks? indent bound next with
        | some more =>
          some ⟨x :: more.breaks, more.after, max after.column more.widest⟩
        | none => none
      | _, _ => some ⟨[], after, after.column⟩

/-- A line of the text. -/
structure Line where
  text : List Char
  /-- The line break that ends it, unless the text ends there. -/
  ending : Option Char
  /-- The breaks of the blank lines after it. -/
  blanks : List Char
  deriving Repr, Inhabited

/-- Whether a line starts with a blank. -/
def Line.startsBlank (line : Line) : Bool :=
  match line.text with
  | c :: _ => isBlank c
  | [] => false

/-- Reads the lines with the given indentation; at most `bound` of them. -/
def readLines? (indent : Nat) : Nat → Cursor → Option (List Line × Cursor)
  | 0, c => some ([], c)
  | bound + 1, c =>
    if c.column != indent || c.atEnd then some ([], c)
    else
      let (text, after) := c.span fun x => !isBreak x
      let (ending, next) :=
        match after.lineBreak? with
        | some (x, next) => (some x, next)
        | none => (none, after)
      match readBlanks? (some indent) next.left next with
      | none => none
      | some blanks =>
        match readLines? indent bound blanks.after with
        | none => none
        | some (lines, last) => some (⟨text, ending, blanks.breaks⟩ :: lines, last)

/-- What stands between a line and the next one.  Folding makes a space of a single line break
between lines that start with no blank, and drops the first of several. -/
def separator (folds : Bool) (line next : Line) : List Char :=
  if folds && line.ending == some '\n' && !line.startsBlank && !next.startsBlank then
    if line.blanks.isEmpty then [' '] else line.blanks
  else line.ending.toList ++ line.blanks

/-- What stands after the last line. -/
def final (chomping : Chomping) (ending blanks : List Char) : List Char :=
  match chomping with
  | .strip => []
  | .clip => ending
  | .keep => ending ++ blanks

/-- The text of lines. -/
def joinLines (folds : Bool) (chomping : Chomping) : List Line → List Char
  | [] => []
  | [line] => line.text ++ final chomping line.ending.toList line.blanks
  | line :: next :: rest =>
    line.text ++ separator folds line next ++ joinLines folds chomping (next :: rest)

/-- The text of a scalar from the breaks before its first line and its lines. -/
def join (folds : Bool) (chomping : Chomping) (before : List Char) (lines : List Line) :
    List Char :=
  match lines with
  | [] => final chomping [] before
  | lines => before ++ joinLines folds chomping lines

/-- Reads a block scalar at its indicator.  `outer` is the least column to the right of the block
that it stands in; a given increment counts from that block. -/
def read? (folds : Bool) (outer : Nat) (c : Cursor) : Option (List Char × Cursor) :=
  let c := c.skip 1
  match readHeader? c.rest with
  | none => none
  | some (header, count) =>
    match (c.skip count).endLine? with
    | none => none
    | some start =>
      let given := header.increment.map fun n => outer - 1 + n
      match readBlanks? given start.left start with
      | none => none
      | some blanks =>
        let indent := given.getD (max (max blanks.widest outer) 1)
        match readLines? indent (blanks.after.left + 1) blanks.after with
        | none => none
        | some (lines, after) => some (join folds header.chomping blanks.breaks lines, after)

end SchemaTypes.Yaml.Block
