import SchemaTypes.Url.Basic

set_option autoImplicit false

/-!
# Reading URLs

Reads a text as a URL in normal form, on its own (`Url.parse?`) or relative to a base
(`Url.join?`).  Surrounding blanks are dropped; tabs and line breaks count as nothing, except that
they may part a drive letter from what follows it; schemes and host names are put into lower case; a
backslash is a slash in special and file URLs; what may not stand in a part is escaped there; ports
that the scheme implies are left out.
-/

namespace SchemaTypes.Url

/-- A text without surrounding blanks and control characters. -/
def trim (text : List Char) : List Char := Text.trim (fun c => c.toNat ≤ 0x20) text

/-- A tab or a line break, which counts as nothing. -/
def isIgnored (c : Char) : Bool := c = '\t' || c = '\n' || c = '\r'

/-- A text without tabs and line breaks. -/
def strip (text : List Char) : List Char := text.filter fun c => !isIgnored c

/-- The characters of a scheme. -/
def isSchemeChar (c : Char) : Bool := c.isAlphanum || c = '+' || c = '-' || c = '.'

/-- A scheme in lower case: a letter and further characters. -/
def scheme? (text : List Char) : Option (List Char) :=
  match text with
  | [] => none
  | first :: rest =>
    if isLetter first && rest.all isSchemeChar then some (text.map Char.toLower) else none

/-- Splits off the scheme with its colon. -/
def splitScheme? (text : List Char) : Option (List Char × List Char) :=
  match Text.splitFirst? ':' text with
  | none => none
  | some (before, rest) => (scheme? (strip before)).map fun scheme => (scheme, rest)

/-- Whether a backslash is a slash. -/
def Kind.hasBackslash : Kind → Bool
  | .special | .file => true
  | .general => false

/-- A character that ends a path segment. -/
def isSlash (kind : Kind) (c : Char) : Bool := c = '/' || (kind.hasBackslash && c = '\\')

/-- A character that ends an authority. -/
def endsAuthority (kind : Kind) (c : Char) : Bool := isSlash kind c || c = '?' || c = '#'

/-! ## Query and fragment -/

/-- Splits a text into what stands before its query or fragment, and these two. -/
structure Tail where
  body : List Char
  query : Option (List Char)
  fragment : Option (List Char)
  deriving DecidableEq, Repr, Inhabited

/-- The query and fragment of a text, escaped, and what stands before them as it is. -/
def splitTail (kind : Kind) (text : List Char) : Tail :=
  let (beforeFragment, fragment) :=
    match Text.splitFirst? '#' text with
    | some (before, after) => (before, some (Percent.encode fragmentSet (strip after)))
    | none => (text, none)
  let set := if kind = .general then querySet else specialQuerySet
  match Text.splitFirst? '?' beforeFragment with
  | some (before, after) => ⟨before, some (Percent.encode set (strip after)), fragment⟩
  | none => ⟨beforeFragment, none, fragment⟩

/-! ## Paths -/

/-- Whether a tab or a line break stands between the first two characters of a text and more of
them. -/
def startIsParted (text : List Char) : Bool :=
  match text.dropWhile isIgnored with
  | [] => false
  | _ :: rest =>
    match rest.dropWhile isIgnored with
    | [] => false
    | _ :: more =>
      match more with
      | c :: _ => isIgnored c && more.any fun c => !isIgnored c
      | [] => false

/-- The piece that stands for a text without slashes. -/
def Piece.ofText (text : List Char) : Piece :=
  ⟨Percent.encode pathSet (strip text), startIsParted text⟩

/-- The pieces of the text of a path. -/
def pieces (kind : Kind) (text : List Char) : List Piece :=
  let slashed := text.map fun c => if isSlash kind c then '/' else c
  (Text.split '/' slashed).map Piece.ofText

/-- The path from the directory `dir` along the text of a relative path. -/
def pathFrom (kind : Kind) (dir : List (List Char)) (text : List Char) : List (List Char) :=
  let walked := walk (kind = .file) dir (pieces kind text)
  if kind = .file then trimRoot walked else walked

/-- The text of a path without its first slash. -/
def dropSlash (kind : Kind) (text : List Char) : List Char :=
  match text.dropWhile isIgnored with
  | c :: rest => if isSlash kind c then rest else text
  | [] => []

/-- The path that follows an authority. -/
def rootPath (kind : Kind) (text : List Char) : List (List Char) :=
  if kind = .general && text.isEmpty then []
  else if kind = .general && text.head? ≠ some '/' then pathFrom kind [] text
  else pathFrom kind [] (dropSlash kind text)

/-! ## Authorities -/

/-- The escaped user name and password, with their colon and at sign. -/
def userText (text : List Char) : List Char :=
  let (name, password) :=
    match Text.splitFirst? ':' text with
    | some (before, after) => (before, after)
    | none => (text, [])
  let escaped :=
    Percent.encode userSet name ++
      (if password.isEmpty then [] else ':' :: Percent.encode userSet password)
  if escaped.isEmpty then [] else escaped ++ ['@']

/-- Splits the text of an authority at the colon before its port; a colon in brackets is part of
the host. -/
def splitPort (inside : Bool) : List Char → List Char × Option (List Char)
  | [] => ([], none)
  | c :: rest =>
    if c = ':' && !inside then ([], some rest)
    else
      let inside := if c = '[' then true else if c = ']' then false else inside
      let (host, port) := splitPort inside rest
      (c :: host, port)

/-- The number of a port, up to 65535, or none if there are no digits, and what follows it.  Only a
backslash may follow. -/
def readPort? (text : List Char) : Option (Option Nat × List Char) :=
  let digits := text.takeWhile Char.isDigit
  let rest := text.dropWhile Char.isDigit
  let port := digits.foldl (fun value c => value * 10 + (c.toNat - 48)) 0
  if 65535 < port || !(rest.isEmpty || rest.head? = some '\\') then none
  else some (if digits.isEmpty then none else some port, rest)

/-- The host and port of an authority, and what follows them. -/
def readHost? (kind : Kind) (scheme user text : List Char) : Option (Authority × List Char) :=
  let (hostText, portText) := splitPort false text
  let host :=
    if kind = .general then Host.general? hostText
    else if hostText.isEmpty then none
    else Host.special? hostText
  match host with
  | none => none
  | some host =>
    if host.isEmpty && (portText.isSome || !user.isEmpty) then none
    else
      match readPort? (portText.getD []) with
      | none => none
      | some (port, rest) =>
        some (⟨user, host, if port = defaultPort? scheme then none else port⟩, rest)

/-- Reads the authority of a scheme that is not `file`, and what follows its port; `isLast` says
that nothing stands behind the text. -/
def readAuthority? (kind : Kind) (scheme text : List Char) (isLast : Bool) :
    Option (Authority × List Char) :=
  match Text.splitLast? '@' text with
  | none => readHost? kind scheme [] text
  | some ([], rest) =>
    if rest.isEmpty && !isLast then none else readHost? kind scheme [] rest
  | some (user, rest) => readHost? kind scheme (userText user) rest

/-- Reads a URL after its scheme and two slashes. -/
def afterSlashes? (kind : Kind) (scheme text : List Char) : Option Url :=
  let authorityText := text.takeWhile fun c => !endsAuthority kind c
  let after := text.dropWhile fun c => !endsAuthority kind c
  match readAuthority? kind scheme authorityText after.isEmpty with
  | none => none
  | some (authority, rest) =>
    let tail := splitTail kind (rest ++ after)
    some ⟨scheme, some authority, .segments (rootPath kind tail.body), tail.query, tail.fragment⟩

/-! ## Absolute and relative URLs -/

/-- Reads a URL of the general kind after its scheme. -/
def readGeneral? (scheme text : List Char) : Option Url :=
  match text with
  | '/' :: '/' :: rest => afterSlashes? .general scheme rest
  | '/' :: rest =>
    let tail := splitTail .general rest
    some ⟨scheme, none, .segments (pathFrom .general [] tail.body), tail.query, tail.fragment⟩
  | _ =>
    let tail := splitTail .general text
    some ⟨scheme, none, .verbatim (Percent.encode Percent.controls tail.body), tail.query,
      tail.fragment⟩

/-- The segments of a path with a hierarchy. -/
def Path.list : Path → List (List Char)
  | .segments list => list
  | .verbatim _ => []

/-- A base with another path, query and fragment. -/
def withPath (base : Url) (segments : List (List Char)) (tail : Tail) : Url :=
  { base with path := .segments segments, query := tail.query, fragment := tail.fragment }

/-- Reads a relative URL against a base that is not a file URL. -/
def readRelative? (base : Url) (text : List Char) : Option Url :=
  let kind := Kind.of base.scheme
  let tail := splitTail kind text
  match tail.body with
  | [] =>
    let query := if tail.query.isSome then tail.query else base.query
    some { base with query := query, fragment := tail.fragment }
  | first :: rest =>
    if first = '/' || first = '\\' then
      match rest with
      | second :: _ =>
        if second = '/' || second = '\\' then
          if first = '/' && second = '/' then afterSlashes? kind base.scheme (text.drop 2)
          else
            afterSlashes? kind base.scheme (text.dropWhile fun c => c = '/' || c = '\\')
        else some (withPath base (pathFrom kind [] rest) tail)
      | [] => some (withPath base (pathFrom kind [] rest) tail)
    else some (withPath base (pathFrom kind base.path.list.dropLast tail.body) tail)

/-- A file URL. -/
def fileUrl (host : Host) (segments : List (List Char)) (tail : Tail) : Url :=
  ⟨"file".toList, some ⟨[], host, none⟩, .segments segments, tail.query, tail.fragment⟩

/-- No host. -/
def noHost : Host := .name []

/-- The host of a URL. -/
def hostOf (url : Url) : Host :=
  match url.authority with
  | some a => a.host
  | none => noHost

/-- Reads a file URL after `file://`. -/
def fileAfterSlashes? (text : List Char) : Option Url :=
  let hostText := strip (text.takeWhile fun c => !endsAuthority .file c)
  let afterHost := text.dropWhile fun c => !endsAuthority .file c
  if isDriveLetter hostText || hostText.isEmpty then
    let tail := splitTail .file text
    some (fileUrl noHost (pathFrom .file [] tail.body) tail)
  else
    match Host.special? hostText with
    | none => none
    | some host =>
      let tail := splitTail .file afterHost
      if host = .name "localhost".toList then
        some (fileUrl noHost (pathFrom .file [] tail.body) tail)
      else
        let path := pieces .file (dropSlash .file tail.body)
        some (fileUrl (if findsDrive [] path then noHost else host) (trimRoot (walk true [] path))
          tail)

/-- Reads a file URL after its scheme, or a text relative to a file URL. -/
def readFile? (base : Option Url) (text : List Char) : Option Url :=
  match text.dropWhile isIgnored with
  | first :: rest =>
    if isSlash .file first then
      match rest.dropWhile isIgnored with
      | second :: after =>
        if isSlash .file second then fileAfterSlashes? after else some (fromRoot text)
      | [] => some (fromRoot text)
    else fromBase text
  | [] => fromBase text
where
  fromRoot (text : List Char) : Url :=
    let tail := splitTail .file text
    let path := dropSlash .file tail.body
    match base with
    | none => fileUrl noHost (pathFrom .file [] path) tail
    | some base =>
      if startsWithDriveLetter (strip path) then fileUrl noHost (pathFrom .file [] path) tail
      else
        let first := base.path.list.headD []
        if isNormalDriveLetter first then fileUrl noHost (pathFrom .file [first] path) tail
        else fileUrl (hostOf base) (pathFrom .file [] path) tail
  fromBase (text : List Char) : Option Url :=
    let tail := splitTail .file text
    match base with
    | none => some (fileUrl noHost (pathFrom .file [] tail.body) tail)
    | some base =>
      if (strip tail.body).isEmpty then
        let query := if tail.query.isSome then tail.query else base.query
        some { base with query := query, fragment := tail.fragment }
      else if startsWithDriveLetter (strip tail.body) then
        some (fileUrl noHost (pathFrom .file [] tail.body) tail)
      else
        let walked := walkBeside base.path.list (pieces .file tail.body)
        some (withPath base (trimRoot walked) tail)

/-- Whether other URLs can be read relative to this one. -/
def canBeBase (url : Url) : Bool :=
  match url.path with
  | .verbatim _ => false
  | .segments _ => true

/-- Reads a URL whose scheme has been split off. -/
def readWithScheme? (base : Option Url) (scheme text : List Char) : Option Url :=
  match Kind.of scheme with
  | .file =>
    let fileBase :=
      match base with
      | some b => if b.scheme = scheme then some b else none
      | none => none
    readFile? fileBase text
  | .general => readGeneral? scheme (strip text)
  | .special =>
    let text := strip text
    let slashes := text.takeWhile fun c => c = '/' || c = '\\'
    let absolute := afterSlashes? .special scheme (text.drop slashes.length)
    match base with
    | some b =>
      if slashes.length < 2 && b.scheme = scheme then readRelative? b text else absolute
    | none => absolute

/-- Reads a text without a scheme against a base. -/
def readWithoutScheme? (base : Url) (text : List Char) : Option Url :=
  let stripped := strip text
  if stripped.head? = some '#' then
    some { base with fragment := (splitTail (Kind.of base.scheme) stripped).fragment }
  else if !base.canBeBase then none
  else if Kind.of base.scheme = .file then readFile? (some base) text
  else readRelative? base stripped

/-- Reads an absolute URL. -/
def parse? (text : List Char) : Option Url :=
  match splitScheme? (trim text) with
  | some (scheme, rest) => readWithScheme? none scheme rest
  | none => none

/-- Reads a URL relative to `base`. -/
def join? (base : Url) (text : List Char) : Option Url :=
  match splitScheme? (trim text) with
  | some (scheme, rest) => readWithScheme? (some base) scheme rest
  | none => readWithoutScheme? base (trim text)

end SchemaTypes.Url
