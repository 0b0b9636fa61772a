import SchemaTypes.Yaml.Layout
import SchemaTypes.Yaml.Node

set_option autoImplicit false

/-!
# The structure of YAML documents

The nodes that a series of tokens describes.  A text holds at most one document.
-/

namespace SchemaTypes.Yaml

/-- How far nodes are read. -/
structure Progress where
  /-- The tokens to come. -/
  tokens : List Token
  anchors : Anchors
  deriving Repr, Inhabited

namespace Progress

/-- Goes on behind the next token. -/
def skip (p : Progress) : Progress := { p with tokens := p.tokens.drop 1 }

/-- Whether the next token is one of the given ones. -/
def isAt (p : Progress) (tokens : List Token) : Bool :=
  match p.tokens with
  | token :: _ => tokens.contains token
  | [] => false

end Progress

/-- What may stand in front of a node. -/
structure Properties where
  anchor : Option String
  tag : Option WrittenTag
  deriving Repr, Inhabited

namespace Properties

/-- Reads an anchor and a tag, in either order, if they are there. -/
def read (p : Progress) : Properties × Progress :=
  match p.tokens with
  | .anchor name :: .tag tag :: rest => (⟨some name, some tag⟩, { p with tokens := rest })
  | .anchor name :: rest => (⟨some name, none⟩, { p with tokens := rest })
  | .tag tag :: .anchor name :: rest => (⟨some name, some tag⟩, { p with tokens := rest })
  | .tag tag :: rest => (⟨none, some tag⟩, { p with tokens := rest })
  | _ => (⟨none, none⟩, p)

/-- Whether there is neither anchor nor tag. -/
def isEmpty (properties : Properties) : Bool :=
  properties.anchor.isNone && properties.tag.isNone

end Properties

/-- What the handles of tags stand for. -/
abbrev Handles := OrderedMap String (List UInt8)

namespace Handles

/-- The handles that need no declaration. -/
def standard : Handles := [("!", Tag.bare), ("!!", Tag.standardStart)]

/-- The full text of a tag.  Its handle must have been declared. -/
def fullTag? (handles : Handles) (tag : WrittenTag) : Option (List UInt8) :=
  if tag.handle.isEmpty then some tag.suffix
  else (OrderedMap.get? handles tag.handle).map fun meaning => meaning ++ tag.suffix

/-- The full text of a tag that may be absent. -/
def resolve? (handles : Handles) (tag : Option WrittenTag) : Option (Option (List UInt8)) :=
  match tag with
  | none => some none
  | some tag => (handles.fullTag? tag).map some

end Handles

/-- Where a node stands. -/
inductive Position where
  /-- Between brackets. -/
  | flow
  /-- In a block. -/
  | block
  /-- In the place of a key or a value in a block, where entries need no indentation. -/
  | member
  deriving DecidableEq, Repr, Inhabited

/-- The form of a node, as its first token shows it. -/
inductive Form where
  | scalar (scalar : Scalar)
  /-- Entries that need no indentation; no token opens them. -/
  | bareEntries
  | entries
  | members
  | flowList
  | flowMap
  /-- Only an anchor or a tag. -/
  | missing
  deriving DecidableEq, Repr, Inhabited

/-- The form of a node that stands at the next token. -/
def Form.at? (position : Position) (properties : Properties) (p : Progress) : Option Form :=
  let otherwise := if properties.isEmpty then none else some .missing
  match p.tokens with
  | .entry :: _ => if position = .member then some .bareEntries else otherwise
  | .scalar content :: _ => some (.scalar content)
  | .openList :: _ => some .flowList
  | .openMap :: _ => some .flowMap
  | .openEntries :: _ => if position = .flow then otherwise else some .entries
  | .openMembers :: _ => if position = .flow then otherwise else some .members
  | _ => otherwise

namespace Node

mutual

/-- Reads a node. -/
def read? (handles : Handles) : Nat → Position → Progress → Option (Node × Progress)
  | 0, _, _ => none
  | bound + 1, position, p =>
    match p.tokens with
    | .aliasOf name :: _ =>
      match p.anchors.numbers.get? name with
      | some number => some (.aliasOf number, p.skip)
      | none => none
    | _ =>
      let (properties, p) := Properties.read p
      match handles.resolve? properties.tag, Form.at? position properties p with
      | some tag, some form =>
        let order := p.anchors.begun
        let begun := { p with anchors := p.anchors.begin properties.anchor }
        match readForm? handles bound tag form begun with
        | some (node, p) =>
          some (node,
            { p with anchors := p.anchors.complete properties.anchor order node })
        | none => none
      | _, _ => none

/-- Reads a node of a known form. -/
def readForm? (handles : Handles) : Nat → Option (List UInt8) → Form → Progress →
    Option (Node × Progress)
  | 0, _, _, _ => none
  | bound + 1, tag, form, p =>
    match form with
    | .scalar content => some (.scalar tag content, p.skip)
    | .missing => some (.scalar tag ⟨"", true⟩, p)
    | .bareEntries =>
      match readBareEntries? handles bound p with
      | some (items, p) => some (.list tag items, p)
      | none => none
    | .entries =>
      match readEntries? handles bound p.skip with
      | some (items, p) => some (.list tag items, p)
      | none => none
    | .members =>
      match readMembers? handles bound p.skip with
      | some (entries, p) => some (.map tag entries, p)
      | none => none
    | .flowList =>
      match readItems? handles bound true p.skip with
      | some (items, p) => some (.list tag items, p)
      | none => none
    | .flowMap =>
      match readPairs? handles bound true p.skip with
      | some (entries, p) => some (.map tag entries, p)
      | none => none

/-- Reads a node, or none where one of the given tokens follows. -/
def readUnless? (handles : Handles) : Nat → Position → List Token → Progress →
    Option (Node × Progress)
  | 0, _, _, _ => none
  | bound + 1, position, tokens, p =>
    if p.isAt tokens then some (.missing, p) else read? handles bound position p

/-- Reads the entries of a block, up to and past its end. -/
def readEntries? (handles : Handles) : Nat → Progress → Option (List Node × Progress)
  | 0, _ => none
  | bound + 1, p =>
    match p.tokens with
    | .entry :: _ =>
      match readUnless? handles bound .block [.entry, .close] p.skip with
      | none => none
      | some (item, p) =>
        match readEntries? handles bound p with
        | some (items, p) => some (item :: items, p)
        | none => none
    | .close :: _ => some ([], p.skip)
    | _ => none

/-- Reads entries without indentation of their own. -/
def readBareEntries? (handles : Handles) : Nat → Progress → Option (List Node × Progress)
  | 0, _ => none
  | bound + 1, p =>
    match p.tokens with
    | .entry :: _ =>
      match readUnless? handles bound .block [.entry, .key, .value, .close] p.skip with
      | none => none
      | some (item, p) =>
        match readBareEntries? handles bound p with
        | some (items, p) => some (item :: items, p)
        | none => none
    | _ => some ([], p)

/-- Reads the keys and values of a block, up to and past its end. -/
def readMembers? (handles : Handles) : Nat → Progress → Option (List (Node × Node) × Progress)
  | 0, _ => none
  | bound + 1, p =>
    match p.tokens with
    | .key :: _ =>
      match readUnless? handles bound .member [.key, .value, .close] p.skip with
      | none => none
      | some (key, p) =>
        let value :=
          if p.isAt [.value] then
            readUnless? handles bound .member [.key, .value, .close] p.skip
          else some (.missing, p)
        match value with
        | none => none
        | some (value, p) =>
          match readMembers? handles bound p with
          | some (entries, p) => some ((key, value) :: entries, p)
          | none => none
    | .close :: _ => some ([], p.skip)
    | _ => none

/-- Reads the items between square brackets, up to and past the closing one. -/
def readItems? (handles : Handles) : Nat → Bool → Progress → Option (List Node × Progress)
  | 0, _, _ => none
  | bound + 1, isFirst, p =>
    if p.isAt [.closeList] then some ([], p.skip)
    else if !isFirst && !p.isAt [.comma] then none
    else
      let p := if isFirst then p else p.skip
      if p.isAt [.closeList] then some ([], p.skip)
      else
        let item :=
          if p.isAt [.key] then readPair? handles bound p.skip
          else read? handles bound .flow p
        match item with
        | none => none
        | some (item, p) =>
          match readItems? handles bound false p with
          | some (items, p) => some (item :: items, p)
          | none => none

/-- Reads a single key with its value between square brackets.  Where the key is missing, the token
in its place is passed over. -/
def readPair? (handles : Handles) : Nat → Progress → Option (Node × Progress)
  | 0, _ => none
  | bound + 1, p =>
    let key :=
      if p.isAt [.value, .comma, .closeList] then some (.missing, p.skip)
      else read? handles bound .flow p
    match key with
    | none => none
    | some (key, p) =>
      let value :=
        if p.isAt [.value] then readUnless? handles bound .flow [.comma, .closeList] p.skip
        else some (.missing, p)
      match value with
      | some (value, p) => some (.map none [(key, value)], p)
      | none => none

/-- Reads the keys and values between curly brackets, up to and past the closing one. -/
def readPairs? (handles : Handles) : Nat → Bool → Progress →
    Option (List (Node × Node) × Progress)
  | 0, _, _ => none
  | bound + 1, isFirst, p =>
    if p.isAt [.closeMap] then some ([], p.skip)
    else if !isFirst && !p.isAt [.comma] then none
    else
      let p := if isFirst then p else p.skip
      if p.isAt [.closeMap] then some ([], p.skip)
      else
        let marked := p.isAt [.key]
        let key :=
          if marked then readUnless? handles bound .flow [.value, .comma, .closeMap] p.skip
          else read? handles bound .flow p
        match key with
        | none => none
        | some (key, p) =>
          let value :=
            if marked && p.isAt [.value] then
              readUnless? handles bound .flow [.comma, .closeMap] p.skip
            else some (.missing, p)
          match value with
          | none => none
          | some (value, p) =>
            match readPairs? handles bound false p with
            | some (entries, p) => some ((key, value) :: entries, p)
            | none => none

end

end Node

namespace Document

/-- Reads the directives before a document: the handles they declare, and whether a version is among
them.  Nothing is told twice. -/
def readDirectives? (versionKnown : Bool) (handles : Handles) : List Token →
    Option (Handles × List Token)
  | .version major minor :: rest =>
    if versionKnown || major != 1 || (minor != 1 && minor != 2) then none
    else readDirectives? true handles rest
  | .tagHandle handle meaning :: rest =>
    if OrderedMap.contains handles handle then none
    else readDirectives? versionKnown (OrderedMap.insert handles handle meaning) rest
  | tokens => some (handles, tokens)

/-- The handles declared, and the standard ones that are not. -/
def withStandard (declared : Handles) : Handles :=
  declared ++ Handles.standard.filter fun entry => !OrderedMap.contains declared entry.1

/-- Whether nothing comes after a document but marks of its end. -/
def isOver (tokens : List Token) : Bool := tokens.all fun token => token == .documentEnd

/-- Reads the node of a document, after its directives and start. -/
def readContent? (handles : Handles) (tokens : List Token) : Option Document :=
  match Node.read? handles (3 * tokens.length + 3) .block ⟨tokens, .empty⟩ with
  | some (root, p) => if isOver p.tokens then some ⟨some root, p.anchors⟩ else none
  | none => none

/-- Reads a document that begins with directives or a mark of its start. -/
def readExplicit? (tokens : List Token) : Option Document :=
  match readDirectives? false [] tokens with
  | some (declared, .documentStart :: rest) =>
    match rest with
    | [] => some ⟨some .missing, .empty⟩
    | .documentEnd :: rest => if isOver rest then some ⟨some .missing, .empty⟩ else none
    | _ => readContent? (withStandard declared) rest
  | _ => none

/-- The document that tokens describe. -/
def ofTokens? (tokens : List Token) : Option Document :=
  match tokens with
  | [] => some ⟨none, .empty⟩
  | .version _ _ :: _ => readExplicit? tokens
  | .tagHandle _ _ :: _ => readExplicit? tokens
  | .documentStart :: _ => readExplicit? tokens
  | _ => readContent? Handles.standard tokens

/-- The document of a text. -/
def read? (text : List Char) : Option Document :=
  match Token.read? text with
  | some tokens => ofTokens? tokens
  | none => none

end Document

end SchemaTypes.Yaml
