import SchemaTypes.Text.Hex
import SchemaTypes.Yaml.Gap

set_option autoImplicit false

/-!
# Quoted scalars

Text in quotes may run over several lines, which are joined as gaps are.  Between single quotes a
quote is written twice.  Between double quotes a backslash escapes a character or a line break.
-/

namespace SchemaTypes.Yaml.Quoted

/-- Characters read from one line: what they stand for, how many they are, and the text after
them. -/
structure Run where
  text : List Char
  count : Nat
  rest : List Char
  deriving Repr, Inhabited

/-- A run with `count` more characters, which stand for `c`, in front. -/
def Run.push (c : Char) (count : Nat) (run : Run) : Run :=
  { run with text := c :: run.text, count := run.count + count }

/-- The characters between single quotes up to a gap or the closing quote. -/
def singleRun : List Char → Run
  | [] => ⟨[], 0, []⟩
  | [c] => if isGap c || c = singleQuote then ⟨[], 0, [c]⟩ else ⟨[c], 1, []⟩
  | c :: d :: rest =>
    if isGap c then ⟨[], 0, c :: d :: rest⟩
    else if c = singleQuote then
      if d = singleQuote then (singleRun rest).push singleQuote 2
      else ⟨[], 0, c :: d :: rest⟩
    else (singleRun (d :: rest)).push c 1

/-- The character that a backslash and `c` stand for. -/
def simpleEscape? (c : Char) : Option Char :=
  match c with
  | '0' => some (Char.ofNat 0x00)
  | 'a' => some (Char.ofNat 0x07)
  | 'b' => some (Char.ofNat 0x08)
  | 't' => some '\t'
  | '\t' => some '\t'
  | 'n' => some '\n'
  | 'v' => some (Char.ofNat 0x0B)
  | 'f' => some (Char.ofNat 0x0C)
  | 'r' => some '\r'
  | 'e' => some (Char.ofNat 0x1B)
  | ' ' => some ' '
  | '/' => some '/'
  | '\\' => some '\\'
  | 'N' => some (Char.ofNat 0x85)
  | '_' => some (Char.ofNat 0xA0)
  | 'L' => some (Char.ofNat 0x2028)
  | 'P' => some (Char.ofNat 0x2029)
  | c => if c = doubleQuote then some c else none

/-- The character with the code that hexadecimal digits stand for. -/
def coded? (digits : List Char) : Option Char :=
  match Hex.number? 0 digits with
  | some code => if code.isValidChar then some (Char.ofNat code) else none
  | none => none

/-- The characters between double quotes up to a gap, the closing quote or an escaped line break;
`none` if an escape means nothing. -/
def doubleRun : List Char → Option Run
  | [] => some ⟨[], 0, []⟩
  | '\\' :: 'x' :: a :: b :: rest =>
    match coded? [a, b], doubleRun rest with
    | some c, some run => some (run.push c 4)
    | _, _ => none
  | '\\' :: 'u' :: a :: b :: c :: d :: rest =>
    match coded? [a, b, c, d], doubleRun rest with
    | some c, some run => some (run.push c 6)
    | _, _ => none
  | '\\' :: 'U' :: a :: b :: c :: d :: e :: f :: g :: h :: rest =>
    match coded? [a, b, c, d, e, f, g, h], doubleRun rest with
    | some c, some run => some (run.push c 10)
    | _, _ => none
  | '\\' :: x :: rest =>
    if isBreak x then some ⟨[], 0, '\\' :: x :: rest⟩
    else
      match simpleEscape? x, doubleRun rest with
      | some c, some run => some (run.push c 2)
      | _, _ => none
  | c :: rest =>
    if isGap c || c = doubleQuote then some ⟨[], 0, c :: rest⟩
    else if c = '\\' then none
    else (doubleRun rest).map (Run.push c 1)

/-- The characters of one line, up to a gap or the closing quote. -/
def run? (quote : Char) (text : List Char) : Option Run :=
  if quote = singleQuote then some (singleRun text) else doubleRun text

/-- Reads the gap after a run. -/
def readGap? (quote : Char) (c : Cursor) : Option (Gap × Cursor) :=
  match c.rest with
  | '\\' :: x :: _ =>
    if quote = doubleQuote && isBreak x then
      match (c.skip 1).lineBreak? with
      | some (_, next) => Gap.readEscaped? next
      | none => none
    else Gap.read? 0 c
  | _ => Gap.read? 0 c

/-- Reads the rest of a quoted scalar, up to and past the closing quote; at most `bound` runs. -/
def readFrom (quote : Char) : Nat → Cursor → Option (List Char × Cursor)
  | 0, _ => none
  | bound + 1, c =>
    if c.atDocumentMark || c.atEnd then none
    else
      match run? quote c.rest with
      | none => none
      | some run =>
        let after := c.moveTo run.rest run.count
        if run.rest.head? == some quote then some (run.text, after.skip 1)
        else
          match readGap? quote after with
          | none => none
          | some (gap, place) =>
            match readFrom quote bound place with
            | some (text, last) => some (run.text ++ gap.text ++ text, last)
            | none => none

/-- Reads a quoted scalar at its opening quote. -/
def read? (quote : Char) (c : Cursor) : Option (List Char × Cursor) :=
  readFrom quote (c.left + 1) (c.skip 1)

end SchemaTypes.Yaml.Quoted
