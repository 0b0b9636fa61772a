import SchemaTypes.Yaml.Block
import SchemaTypes.Yaml.Directive
import SchemaTypes.Yaml.Plain
import SchemaTypes.Yaml.Quoted

set_option autoImplicit false

/-!
# The layout of YAML texts

The tokens of a text.  Reading them keeps the columns of the open blocks: a token further to the
left closes blocks, and an entry or a key further to the right opens one.

A key needs no mark of its own.  Where a node begins that may turn out to be a key, its place among
the tokens is remembered as a `Candidate`; if a colon follows on the same line and not too far on,
the key is marked there, before tokens that are read already.
-/

namespace SchemaTypes.Yaml

/-- A node that may turn out to be a key. -/
structure Candidate where
  /-- The number of tokens before it. -/
  position : Nat
  /-- Whether the text is refused if it is none. -/
  isRequired : Bool
  /-- Where it begins. -/
  start : Cursor
  deriving Repr, Inhabited

/-- The most octets between the start of a key and its colon. -/
def keyReach : Nat := 1024

/-- Whether more than `keyReach` octets stand between two places. -/
def isFar (start place : Cursor) : Bool :=
  let count := start.left - place.left
  keyReach < count || keyReach < (Utf8.encode (start.rest.take count)).length

/-- Whether a place is too far on for a candidate to be a key. -/
def Candidate.isStale (candidate : Candidate) (place : Cursor) : Bool :=
  candidate.start.line < place.line || isFar candidate.start place

/-- How far tokens are read. -/
structure Layout where
  place : Cursor
  /-- The tokens read, last first. -/
  tokens : List Token
  /-- How many they are. -/
  count : Nat
  /-- The columns of the open blocks, innermost first. -/
  columns : List Nat
  /-- Whether a key may begin here. -/
  allowsKey : Bool
  /-- The candidate within the innermost brackets. -/
  candidate : Option Candidate
  /-- The candidates outside of each pair of open brackets, innermost first. -/
  outer : List (Option Candidate)
  deriving Repr, Inhabited

namespace Layout

/-- The layout at the start of a text. -/
def start (text : List Char) : Layout := ⟨.start text, [], 0, [], true, none, []⟩

/-- Whether brackets are open. -/
def inFlow (s : Layout) : Bool := !s.outer.isEmpty

/-- The least column to the right of the innermost block. -/
def inner (s : Layout) : Nat :=
  match s.columns with
  | [] => 0
  | column :: _ => column + 1

/-- Adds a token. -/
def push (s : Layout) (token : Token) : Layout :=
  { s with tokens := token :: s.tokens, count := s.count + 1 }

/-- Adds a token after the first `position` tokens. -/
def insertAt (s : Layout) (position : Nat) (token : Token) : Layout :=
  let later := s.count - position
  { s with
    tokens := s.tokens.take later ++ token :: s.tokens.drop later
    count := s.count + 1 }

/-- Goes on to another place. -/
def moveTo (s : Layout) (place : Cursor) : Layout := { s with place := place }

/-- Says whether a key may begin at the next place. -/
def allowKey (s : Layout) (allowed : Bool) : Layout := { s with allowsKey := allowed }

/-! ## Blocks -/

/-- Closes the blocks that begin to the right of `column`. -/
def closeBlocks (column : Nat) : List Nat → Layout → Layout
  | [], s => { s with columns := [] }
  | c :: rest, s =>
    if column < c then closeBlocks column rest (s.push .close) else { s with columns := c :: rest }

/-- Closes the blocks that the present column ends; between brackets none. -/
def dedent (s : Layout) : Layout :=
  if s.inFlow then s else closeBlocks s.place.column s.columns s

/-- Closes all blocks; between brackets none. -/
def dedentAll (s : Layout) : Layout :=
  if s.inFlow then s
  else { (s.columns.foldl (fun s _ => s.push .close) s) with columns := [] }

/-- Opens a block at a column to the right of the innermost one, before the token at `position`;
between brackets none. -/
def indent (s : Layout) (column position : Nat) (token : Token) : Layout :=
  if s.inFlow || column < s.inner then s
  else { (s.insertAt position token) with columns := column :: s.columns }

/-! ## Keys -/

/-- Gives up the innermost candidate; `none` if it is required. -/
def dropCandidate? (s : Layout) : Option Layout :=
  match s.candidate with
  | some candidate => if candidate.isRequired then none else some { s with candidate := none }
  | none => some s

/-- Gives up the innermost candidate if it is too far back.  Those outside of open brackets are
looked at when the brackets close. -/
def refreshCandidate? (s : Layout) : Option Layout :=
  match s.candidate with
  | some candidate => if candidate.isStale s.place then s.dropCandidate? else some s
  | none => some s

/-- Remembers that the node that begins here may be a key. -/
def saveCandidate? (s : Layout) : Option Layout :=
  if s.allowsKey then
    match s.dropCandidate? with
    | none => none
    | some s =>
      let required := !s.inFlow && s.columns.head? == some s.place.column
      some { s with candidate := some ⟨s.count, required, s.place⟩ }
  else some s

/-! ## Marks -/

/-- Adds a mark of `width` characters. -/
def mark (s : Layout) (width : Nat) (token : Token) : Layout :=
  (s.moveTo (s.place.skip width)).push token

/-- An opening bracket. -/
def openBracket? (s : Layout) (token : Token) : Option Layout :=
  match s.saveCandidate? with
  | none => none
  | some s =>
    some (({ s with outer := s.candidate :: s.outer, candidate := none }.allowKey true).mark 1
      token)

/-- A closing bracket. -/
def closeBracket? (s : Layout) (token : Token) : Option Layout :=
  match s.dropCandidate? with
  | none => none
  | some s =>
    let s :=
      match s.outer with
      | candidate :: rest => { s with candidate := candidate, outer := rest }
      | [] => s
    some ((s.allowKey false).mark 1 token)

/-- A comma between brackets. -/
def comma? (s : Layout) : Option Layout :=
  match s.dropCandidate? with
  | none => none
  | some s => some ((s.allowKey true).mark 1 .comma)

/-- The start of an entry, or of a key that is marked. -/
def blockMark? (s : Layout) (block token : Token) (allowsNext : Bool) : Option Layout :=
  if !s.inFlow && !s.allowsKey then none
  else
    match (s.indent s.place.column s.count block).dropCandidate? with
    | none => none
    | some s => some ((s.allowKey allowsNext).mark 1 token)

/-- The start of a value.  What came before it becomes a key if it can. -/
def value? (s : Layout) : Option Layout :=
  match s.candidate with
  | some candidate =>
    let marked := s.insertAt candidate.position .key
    let opened := marked.indent candidate.start.column candidate.position .openMembers
    some (({ opened with candidate := none }.allowKey false).mark 1 .value)
  | none =>
    if !s.inFlow && !s.allowsKey then none
    else
      some (((s.indent s.place.column s.count .openMembers).allowKey (!s.inFlow)).mark 1 .value)

/-- The start or the end of a document. -/
def documentMark? (s : Layout) (token : Token) : Option Layout :=
  match s.dedentAll.dropCandidate? with
  | none => none
  | some s => some ((s.allowKey false).mark 3 token)

/-- A directive. -/
def directive? (s : Layout) : Option Layout :=
  match s.dedentAll.dropCandidate? with
  | none => none
  | some s =>
    match Directive.read? s.place with
    | some (token, place) => some (((s.allowKey false).moveTo place).push token)
    | none => none

/-! ## Nodes -/

/-- Reads the name of an anchor, after its indicator. -/
def readName? (c : Cursor) : Option (String × Cursor) :=
  let (name, after) := (c.skip 1).span isWord
  let ends :=
    match after.rest with
    | [] => true
    | x :: _ => isGap x || "?:,]\x7d%@`".toList.contains x
  if name.isEmpty || !ends then none else some (String.ofList name, after)

/-- Adds the token of a node that may be a key. -/
def node? (s : Layout) (read : Cursor → Option (Token × Cursor)) : Option Layout :=
  match s.saveCandidate? with
  | none => none
  | some s =>
    match read s.place with
    | some (token, place) => some (((s.allowKey false).moveTo place).push token)
    | none => none

/-- An anchor. -/
def anchor? (s : Layout) : Option Layout :=
  s.node? fun c => (readName? c).map fun (name, after) => (.anchor name, after)

/-- An alias. -/
def aliasNode? (s : Layout) : Option Layout :=
  s.node? fun c => (readName? c).map fun (name, after) => (.aliasOf name, after)

/-- A tag. -/
def tag? (s : Layout) : Option Layout :=
  s.node? fun c => (Tag.read? s.inFlow c).map fun (tag, after) => (.tag tag, after)

/-- A quoted scalar. -/
def quoted? (s : Layout) (quote : Char) : Option Layout :=
  s.node? fun c =>
    (Quoted.read? quote c).map fun (text, after) => (.scalar ⟨String.ofList text, false⟩, after)

/-- A plain scalar.  After the end of its line a key may begin. -/
def plain? (s : Layout) : Option Layout :=
  match s.saveCandidate? with
  | none => none
  | some s =>
    match Plain.read? s.inFlow s.inner s.place with
    | none => none
    | some result =>
      some (((s.allowKey result.endsLine).moveTo result.after).push
        (.scalar ⟨String.ofList result.text, true⟩))

/-- A block scalar. -/
def block? (s : Layout) (folds : Bool) : Option Layout :=
  match s.dropCandidate? with
  | none => none
  | some s =>
    match Block.read? folds s.inner s.place with
    | none => none
    | some (text, after) =>
      some (((s.allowKey true).moveTo after).push (.scalar ⟨String.ofList text, false⟩))

/-! ## Reading on -/

/-- The place after the byte order mark, if a line starts here with one. -/
def skipMark (c : Cursor) : Cursor :=
  if c.column == 0 && c.rest.head? == some byteOrderMark then c.skip 1 else c

/-- The place of the next token, past blanks, comments and line breaks, and whether a line ended
before it.  A tab where a key may begin is no blank.  At most `bound` lines. -/
def skipToToken (inFlow : Bool) : Nat → Bool → Cursor → Cursor × Bool
  | 0, allowsKey, c => (c, allowsKey)
  | bound + 1, allowsKey, c =>
    let blank := fun x => x = ' ' || ((inFlow || !allowsKey) && x = '\t')
    let after := ((skipMark c).skipWhile blank).skipComment
    match after.lineBreak? with
    | some (_, next) => skipToToken inFlow bound (!inFlow || allowsKey) next
    | none => (after, allowsKey)

/-- Goes on to the next token. -/
def advance? (s : Layout) : Option Layout :=
  let (place, allowed) := skipToToken s.inFlow (s.place.left + 1) s.allowsKey s.place
  match ((s.moveTo place).allowKey allowed).refreshCandidate? with
  | some s => some s.dedent
  | none => none

/-- The characters that begin no plain scalar. -/
def indicators : List Char :=
  "-?:,[]\x7b\x7d#&*!|>%@`".toList ++ [singleQuote, doubleQuote]

/-- Whether a plain scalar begins at the character `c` before `rest`. -/
def startsPlain (inFlow : Bool) (c : Char) (rest : List Char) : Bool :=
  (!isGap c && !indicators.contains c) ||
    (c = '-' && !(rest.head?.any isBlank)) ||
    (!inFlow && (c = '?' || c = ':') && !endsWord rest)

/-- Reads the token at the character `c` before `rest`. -/
def token? (s : Layout) (c : Char) (rest : List Char) : Option Layout :=
  if s.place.column = 0 && c = '%' then s.directive?
  else if s.place.startsWithMark '-' then s.documentMark? .documentStart
  else if s.place.startsWithMark '.' then s.documentMark? .documentEnd
  else if c = '[' then s.openBracket? .openList
  else if c.toNat = 0x7B then s.openBracket? .openMap
  else if c = ']' then s.closeBracket? .closeList
  else if c.toNat = 0x7D then s.closeBracket? .closeMap
  else if c = ',' then s.comma?
  else if c = '-' && endsWord rest then s.blockMark? .openEntries .entry true
  else if c = '?' && (s.inFlow || endsWord rest) then
    s.blockMark? .openMembers .key (!s.inFlow)
  else if c = ':' && (s.inFlow || endsWord rest) then s.value?
  else if c = '*' then s.aliasNode?
  else if c = '&' then s.anchor?
  else if c = '!' then s.tag?
  else if c = '|' && !s.inFlow then s.block? false
  else if c = '>' && !s.inFlow then s.block? true
  else if c = singleQuote || c = doubleQuote then s.quoted? c
  else if startsPlain s.inFlow c rest then s.plain?
  else none

/-- Ends the text: all blocks are closed. -/
def finish? (s : Layout) : Option (List Token) :=
  match s.dedentAll.dropCandidate? with
  | some s => some s.tokens.reverse
  | none => none

/-- Reads all tokens from here on; at most `bound` of them. -/
def readAll? : Nat → Layout → Option (List Token)
  | 0, _ => none
  | bound + 1, s =>
    match s.advance? with
    | none => none
    | some s =>
      match s.place.rest with
      | [] => s.finish?
      | c :: rest =>
        match s.token? c rest with
        | some next => readAll? bound next
        | none => none

end Layout

/-- The tokens of a text. -/
def Token.read? (text : List Char) : Option (List Token) :=
  if text.all isAllowed then Layout.readAll? (text.length + 1) (.start text) else none

end SchemaTypes.Yaml
